import Proxxy.NativeHost.Frame

/-!
# The debug native host: answering messages

`handle_message` prints the message, builds a response (`id` from the message or
`"unknown"`, `success: True`, and a `data` part that a `ping` action or the `system` module
replaces) and sends it. The main loop hands every message `receive_message` returns to
`handle_message` until it returns `None`. A `KeyboardInterrupt` ends the host after a
goodbye line; any other `Exception` after a `Fatal error` line, with `sys.exit(1)`. At exit
the interpreter flushes standard output, and when the reader has gone while bytes are still
held the flush fails and the exit status becomes 120.

## Main results

- `host_handles_object_frames` — while the reader stays, frames of JSON objects that the codec
  reads back and whose responses it formats and encodes are handled in order, and the loop
  then goes on as on the bytes after them; on those frames alone, with no Ctrl+C, the host
  handles exactly them and exits with status 0. `host_stops_at_null_frame`: a frame holding
  `null` ends the loop as end of input does.
- `handleMessage_sends_response` — the response to a dict message has the keys `id`,
  `success` and `data`, and its `data` is the system reply, the pong or the echo, in that
  order of precedence.
- `host_binary_writes_are_reply_frames` — the binary writes are the frames of the
  responses, the `i`-th answering the `i`-th handled message;
  `host_prints_banner_to_stdout`: the banner and the diagnostic lines go to the same standard
  output, as text.
-/

namespace Proxxy.NativeHost
open Python

variable (env : Env) (c : Codec)

-- ════════════════════════════════════════════════════════════════════════
-- handle_message
-- ════════════════════════════════════════════════════════════════════════

/-- The `data` of the default response. -/
def debugData (t : ℚ) (message : Value) : Value :=
  .dict [("message", .str "Debug response"), ("timestamp", .float (.fin t)),
    ("received_message", message)]

/-- The `data` of the response to a ping. -/
def pongData (t : ℚ) : Value := .dict [("pong", .bool true), ("timestamp", .float (.fin t))]

/-- The `data` of the response to a message of the `system` module. -/
def systemData : Value := .dict [("status", .str "debug_mode"), ("version", .str "debug-0.1.0")]

/-- `handle_message(message)`. Its first line only records the call. -/
def handleMessage (message : Value) : Py Host Unit := do
  Py.modify fun s => { s with handled := s.handled ++ [message] }
  print env ("Received: " ++ (← Py.lift (c.str message)))
  let id ← Py.lift (message.get "id" (.str "unknown"))
  let t ← now env
  let response := [("id", id), ("success", .bool true), ("data", debugData t message)]
  let action ← Py.lift (message.get "action" .null)
  let response ← if action.eqStr "ping" then do
      let t ← now env
      pure (setItems response "data" (pongData t))
    else pure response
  let module ← Py.lift (message.get "module" .null)
  let response := if module.eqStr "system" then setItems response "data" systemData
    else response
  print env ("Sending: " ++ (← Py.lift (c.str (.dict response))))
  sendMessage env c (.dict response)

/-- The items of the response to a dict message with items `kvs`, the clock reading `t` at
    both calls of `time.time()`. -/
def responseItems (kvs : List (String × Value)) (t : ℚ) : List (String × Value) :=
  let response := [("id", (Value.lookup kvs "id").getD (.str "unknown")), ("success", .bool true),
    ("data", debugData t (.dict kvs))]
  let response := if ((Value.lookup kvs "action").getD .null).eqStr "ping" then
    setItems response "data" (pongData t) else response
  if ((Value.lookup kvs "module").getD .null).eqStr "system" then
    setItems response "data" systemData else response

/-- The response's `id` is the message's, or `"unknown"`, and its `success` is `True`. -/
theorem responseItems_id_success (kvs : List (String × Value)) (t : ℚ) :
    Value.lookup (responseItems kvs t) "id" = some ((Value.lookup kvs "id").getD (.str "unknown")) ∧
    Value.lookup (responseItems kvs t) "success" = some (.bool true) := by
  simp only [responseItems]
  split <;> split <;> simp [lookup_setItems]

/-- The response keeps the keys it was built with, in order. -/
theorem responseItems_keys (kvs : List (String × Value)) (t : ℚ) :
    (responseItems kvs t).map Prod.fst = ["id", "success", "data"] := by
  simp only [responseItems]
  split <;> split <;> simp [setItems]

/-- The `data` the response carries: the `system` module wins over a `ping`. -/
theorem responseItems_data (kvs : List (String × Value)) (t : ℚ) :
    Value.lookup (responseItems kvs t) "data" =
      some (if ((Value.lookup kvs "module").getD .null).eqStr "system" then systemData
        else if ((Value.lookup kvs "action").getD .null).eqStr "ping" then pongData t
        else debugData t (.dict kvs)) := by
  simp only [responseItems]
  split <;> split <;> simp_all [lookup_setItems]

/-- The end of `handle_message` for a dict message once its clock read `t`: the `Sending`
    line and the frame of the response. -/
def respond (kvs : List (String × Value)) (t : ℚ) : Py Host Unit := do
  print env ("Sending: " ++ (← Py.lift (c.str (.dict (responseItems kvs t)))))
  sendMessage env c (.dict (responseItems kvs t))

/-- The instant of `handle_message`'s clock readings, after its `Received` line. -/
def readingAt (s : Host) : ℚ := env.clock (s.out.length + 1)

/-- For a dict message `handle_message` formats and prints its `Received` line, reads the
    clock, and responds. -/
theorem handleMessage_dict_eq (kvs : List (String × Value)) (s : Host) :
    handleMessage env c (.dict kvs) s =
      (Py.lift (c.str (.dict kvs)) >>= fun rcv => print env ("Received: " ++ rcv) >>= fun _ =>
        respond env c kvs (readingAt env s)) { s with handled := s.handled ++ [.dict kvs] } := by
  cases hr : c.str (.dict kvs) with
  | error e => simp [handleMessage, hr, Py.bind_apply]
  | ok rcv =>
    rcases print_spec env ("Received: " ++ rcv) { s with handled := s.handled ++ [.dict kvs] } with
      ⟨held, hp⟩ | hp
    · by_cases hping : ((Value.lookup kvs "action").getD .null).eqStr "ping" <;>
      by_cases hsys : ((Value.lookup kvs "module").getD .null).eqStr "system" <;>
      simp [handleMessage, hr, hp, Py.bind_apply, respond, responseItems, readingAt, hping, hsys]
    · simp [handleMessage, hr, hp, Py.bind_apply]

/-- What `handle_message` writes for an answered message: its `Received` and `Sending` lines
    and the frame of its response's body. -/
def turn (rcv snd : String) (body : List UInt8) : List Out :=
  [.text ("Received: " ++ rcv), .text ("Sending: " ++ snd), .bytes (frame env.order body)]

/-- Everything the end of `handle_message` can do: write the `Sending` line and the frame of
    the response's encoding, or raise having written text only. -/
theorem respond_spec (kvs : List (String × Value)) (t : ℚ) (s : Host) :
    (∃ snd body, c.encode (.dict (responseItems kvs t)) = .ok body ∧ ∃ s',
      respond env c kvs t s = .ret () s' ∧
      s'.out = s.out ++ [.text ("Sending: " ++ snd), .bytes (frame env.order body)] ∧
      s'.stdin = s.stdin ∧ s'.handled = s.handled) ∨
    ∃ e s', respond env c kvs t s = .raise e s' ∧
      (∃ new, s'.out = s.out ++ new ∧ binaryWrites new = []) ∧
      s'.stdin = s.stdin ∧ s'.handled = s.handled := by
  cases hs : c.str (.dict (responseItems kvs t)) with
  | error e => exact .inr ⟨e, s, by simp [respond, hs, Py.bind_apply], ⟨[], by simp⟩, rfl, rfl⟩
  | ok snd =>
    rcases print_spec env ("Sending: " ++ snd) s with ⟨held, hp⟩ | hp
    · rcases sendMessage_spec env c (.dict (responseItems kvs t))
        { s with out := s.out ++ [.text ("Sending: " ++ snd)], held := held } with
        ⟨body, he, hm⟩ | ⟨e, s', hm, ho, hi, hh⟩
      · exact .inl ⟨snd, body, he, { s with
          out := s.out ++ [.text ("Sending: " ++ snd), .bytes (frame env.order body)], held := held },
          by simp [respond, hs, Py.bind_apply, hp, hm], rfl, rfl, rfl⟩
      · exact .inr ⟨e, s', by simp [respond, hs, Py.bind_apply, hp, hm],
          ⟨[.text ("Sending: " ++ snd)], by simp [ho], rfl⟩, hi, hh⟩
    · exact .inr ⟨brokenPipe, { s with held := true }, by simp [respond, hs, Py.bind_apply, hp],
        ⟨[], by simp⟩, rfl, rfl⟩

/-- Everything `handle_message` can do: for a dict, write its turn, with the frame of its
    response's encoding; otherwise raise having written text only. Either way it records the
    message and leaves standard input alone. -/
theorem handleMessage_spec (m : Value) (s : Host) :
    (∃ kvs rcv snd body, m = .dict kvs ∧
      c.encode (.dict (responseItems kvs (readingAt env s))) = .ok body ∧
      ∃ s', handleMessage env c m s = .ret () s' ∧ s'.out = s.out ++ turn env rcv snd body ∧
        s'.handled = s.handled ++ [m] ∧ s'.stdin = s.stdin) ∨
    ∃ e s', handleMessage env c m s = .raise e s' ∧
      (∃ new, s'.out = s.out ++ new ∧ binaryWrites new = []) ∧
      s'.handled = s.handled ++ [m] ∧ s'.stdin = s.stdin := by
  cases hr : c.str m with
  | error e =>
    exact .inr ⟨e, { s with handled := s.handled ++ [m] }, by simp [handleMessage, hr, Py.bind_apply],
      ⟨[], by simp⟩, rfl, rfl⟩
  | ok rcv =>
    rcases print_spec env ("Received: " ++ rcv) { s with handled := s.handled ++ [m] } with
      ⟨held, hp⟩ | hp
    swap
    · exact .inr ⟨brokenPipe, { s with held := true, handled := s.handled ++ [m] },
        by simp [handleMessage, hr, hp, Py.bind_apply], ⟨[], by simp⟩, rfl, rfl⟩
    by_cases hm : ∃ kvs, m = .dict kvs
    · obtain ⟨kvs, rfl⟩ := hm
      have h₀ := handleMessage_dict_eq env c kvs s
      rw [hr, Py.lift_ok_bind, Py.bind_of_ret hp] at h₀
      rcases respond_spec env c kvs (readingAt env s) _ with
        ⟨snd, body, he, s', h, ho, hi, hh⟩ | ⟨e, s', h, ⟨new, ho, hb⟩, hi, hh⟩
      · exact .inl ⟨kvs, rcv, snd, body, rfl, he, s', h₀.trans h, by simp [ho, turn], hh, hi⟩
      · exact .inr ⟨e, s', h₀.trans h, ⟨.text ("Received: " ++ rcv) :: new, by simp [ho], by simp [hb]⟩,
          hh, hi⟩
    · -- `.get` on anything but a dict raises `AttributeError`
      obtain ⟨e, hg⟩ : ∃ e, m.get "id" (.str "unknown") = .error e := by
        cases m <;> simp_all [Value.get]
      exact .inr ⟨e, { s with
          out := s.out ++ [.text ("Received: " ++ rcv)], held := held, handled := s.handled ++ [m] },
        by simp [handleMessage, hr, hp, hg, Py.bind_apply], ⟨[.text ("Received: " ++ rcv)], rfl, rfl⟩,
        rfl, rfl⟩

/-- While the reader stays, a dict message whose lines format and whose response encodes to a
    body that fits a frame is answered: its turn is written. -/
theorem handleMessage_dict {kvs : List (String × Value)} {s : Host} {rcv snd : String}
    {body : List UInt8} (hopen : env.ReaderStays) (hr : c.str (.dict kvs) = .ok rcv)
    (hs : c.str (.dict (responseItems kvs (readingAt env s))) = .ok snd)
    (he : c.encode (.dict (responseItems kvs (readingAt env s))) = .ok body)
    (hfit : body.length < 2 ^ 32) :
    handleMessage env c (.dict kvs) s =
      .ret () { s with
        out := s.out ++ turn env rcv snd body
        held := !env.textFlush (s.out.length + 1)
        handled := s.handled ++ [.dict kvs] } := by
  rw [handleMessage_dict_eq, hr, Py.lift_ok_bind, Py.bind_of_ret (print_of_stays env hopen _ _)]
  simp only [respond, readingAt, List.length_append, List.length_singleton] at hs he ⊢
  rw [hs, Py.lift_ok_bind, Py.bind_of_ret (print_of_stays env hopen _ _),
    sendMessage_apply env c he hfit (hopen _)]
  simp [turn]

theorem handleMessage_stdin {m : Value} {s s' : Host} (h : handleMessage env c m s = .ret () s') :
    s'.stdin = s.stdin := by
  rcases handleMessage_spec env c m s with ⟨-, -, -, -, -, -, s'', h', -, -, hi⟩ | ⟨e, s'', h', -⟩ <;>
    rw [h'] at h <;> cases h
  exact hi

theorem receiveMessage_consumes {v : Value} {s s' : Host} (h : receiveMessage env c s = .ret v s')
    (hv : isNone v = false) : s'.stdin.length + 4 ≤ s.stdin.length := by
  rcases receiveMessage_spec env c s with ⟨v', s'', h', -, -, hn⟩ | ⟨e, s'', h', -⟩ <;>
    rw [h'] at h <;> cases h
  exact (hn hv).2

/-- The response `handle_message` sends for a dict message, while the reader stays, when its
    lines format and its response encodes to a body that fits a frame: a dict with the keys
    `id`, `success` and `data`, in that order, its `id` the message's or `"unknown"`, its
    `success` true, and its `data` the system reply for the `system` module whatever the
    action, else the pong for a `ping`, else the debug echo of the message. -/
theorem handleMessage_sends_response {kvs : List (String × Value)} {s : Host} {rcv snd : String}
    {body : List UInt8} (hopen : env.ReaderStays) (hr : c.str (.dict kvs) = .ok rcv)
    (hs : c.str (.dict (responseItems kvs (readingAt env s))) = .ok snd)
    (he : c.encode (.dict (responseItems kvs (readingAt env s))) = .ok body)
    (hfit : body.length < 2 ^ 32) :
    ∃ r s', handleMessage env c (.dict kvs) s = .ret () s' ∧
      s'.out = s.out ++ [.text ("Received: " ++ rcv), .text ("Sending: " ++ snd),
        .bytes (frame env.order body)] ∧
      s'.handled = s.handled ++ [.dict kvs] ∧
      c.str (.dict r) = .ok snd ∧ c.encode (.dict r) = .ok body ∧
      r.map Prod.fst = ["id", "success", "data"] ∧
      Value.lookup r "id" = some ((Value.lookup kvs "id").getD (.str "unknown")) ∧
      Value.lookup r "success" = some (.bool true) ∧
      Value.lookup r "data" =
        some (if ((Value.lookup kvs "module").getD .null).eqStr "system" then systemData
          else if ((Value.lookup kvs "action").getD .null).eqStr "ping" then
            pongData (readingAt env s)
          else debugData (readingAt env s) (.dict kvs)) :=
  ⟨_, _, handleMessage_dict env c hopen hr hs he hfit, rfl, rfl, hs, he, responseItems_keys _ _,
    (responseItems_id_success _ _).1, (responseItems_id_success _ _).2, responseItems_data _ _⟩

/-- The items of `pingMessage`. -/
def pingItems : List (String × Value) := [("id", .int 1), ("action", .str "ping")]

theorem handleMessage_sends_response_ping :
    ∃ rcv snd body, quietEnv.ReaderStays ∧
      (Codec.python pythonDepths).str (.dict pingItems) = .ok rcv ∧
      (Codec.python pythonDepths).str
        (.dict (responseItems pingItems (readingAt quietEnv (Host.init [])))) = .ok snd ∧
      (Codec.python pythonDepths).encode
        (.dict (responseItems pingItems (readingAt quietEnv (Host.init [])))) = .ok body ∧
      body.length < 2 ^ 32 ∧
      ∃ r s', handleMessage quietEnv (Codec.python pythonDepths) (.dict pingItems) (Host.init []) =
          .ret () s' ∧
        s'.out = (Host.init []).out ++ [.text ("Received: " ++ rcv), .text ("Sending: " ++ snd),
          .bytes (frame quietEnv.order body)] ∧
        s'.handled = (Host.init []).handled ++ [.dict pingItems] ∧
        (Codec.python pythonDepths).str (.dict r) = .ok snd ∧
        (Codec.python pythonDepths).encode (.dict r) = .ok body ∧
        r.map Prod.fst = ["id", "success", "data"] ∧
        Value.lookup r "id" = some ((Value.lookup pingItems "id").getD (.str "unknown")) ∧
        Value.lookup r "success" = some (.bool true) ∧
        Value.lookup r "data" =
          some (if ((Value.lookup pingItems "module").getD .null).eqStr "system" then systemData
            else if ((Value.lookup pingItems "action").getD .null).eqStr "ping" then
              pongData (readingAt quietEnv (Host.init []))
            else debugData (readingAt quietEnv (Host.init [])) (.dict pingItems)) :=
  have hopen : quietEnv.ReaderStays := fun _ => rfl
  have hr : (Codec.python pythonDepths).str (.dict pingItems) = .ok _ := rfl
  have hs : (Codec.python pythonDepths).str
      (.dict (responseItems pingItems (readingAt quietEnv (Host.init [])))) = .ok _ := rfl
  have he : (Codec.python pythonDepths).encode
      (.dict (responseItems pingItems (readingAt quietEnv (Host.init [])))) = .ok _ := rfl
  have hfit : (Json.encodeUtf8 (Json.dumps
      (.dict (responseItems pingItems (readingAt quietEnv (Host.init [])))))).length < 2 ^ 32 := by
    decide
  ⟨_, _, _, hopen, hr, hs, he, hfit,
    handleMessage_sends_response quietEnv (Codec.python pythonDepths) hopen hr hs he hfit⟩

-- ════════════════════════════════════════════════════════════════════════
-- The main loop
-- ════════════════════════════════════════════════════════════════════════

/-- `while True: message = receive_message(); if message is None: break;
    handle_message(message)`. Each message other than `None` took four bytes of input at
    least, so the loop ends. -/
def mainLoop : Py Host Unit := fun s =>
  match h : receiveMessage env c s with
  | .ret message s₁ =>
    if hm : isNone message then .ret () s₁
    else
      match h₂ : handleMessage env c message s₁ with
      | .ret () s₂ => mainLoop s₂
      | .raise e s₂ => .raise e s₂
  | .raise e s₁ => .raise e s₁
termination_by s => s.stdin.length
decreasing_by
  have h₃ := receiveMessage_consumes env c h (by simpa using hm)
  rw [handleMessage_stdin env c h₂]
  omega

/-- One turn of the main loop. -/
theorem mainLoop_eq (s : Host) :
    mainLoop env c s =
      match receiveMessage env c s with
      | .ret message s₁ =>
        if isNone message then .ret () s₁
        else
          match handleMessage env c message s₁ with
          | .ret () s₂ => mainLoop env c s₂
          | .raise e s₂ => .raise e s₂
      | .raise e s₁ => .raise e s₁ := by
  rw [mainLoop]
  split <;> rename_i heq <;> simp only [heq, dite_eq_ite]
  congr 1
  split <;> rename_i heq₂ <;> simp only [heq₂]

theorem mainLoop_of_none {v : Value} {s s₁ : Host} (h : receiveMessage env c s = .ret v s₁)
    (hv : isNone v = true) : mainLoop env c s = .ret () s₁ := by
  rw [mainLoop_eq, h]
  simp [hv]

theorem mainLoop_of_handled {v : Value} {s s₁ s₂ : Host} (h : receiveMessage env c s = .ret v s₁)
    (hv : isNone v = false) (h₂ : handleMessage env c v s₁ = .ret () s₂) :
    mainLoop env c s = mainLoop env c s₂ := by
  rw [mainLoop_eq, h]
  simp [hv, h₂]

theorem mainLoop_of_crash {v : Value} {e : PyExc} {s s₁ s₂ : Host}
    (h : receiveMessage env c s = .ret v s₁) (hv : isNone v = false)
    (h₂ : handleMessage env c v s₁ = .raise e s₂) : mainLoop env c s = .raise e s₂ := by
  rw [mainLoop_eq, h]
  simp [hv, h₂]

theorem mainLoop_of_raise {e : PyExc} {s s₁ : Host} (h : receiveMessage env c s = .raise e s₁) :
    mainLoop env c s = .raise e s₁ := by
  rw [mainLoop_eq, h]

/-- A message the host reads back from its frame and answers: a dict that the codec encodes
    to a body short enough for a length field and decodes back, whose `Received` line formats,
    and whose response, at every clock reading, formats and encodes to a body that fits a
    frame. -/
def Answerable (m : Value) : Prop :=
  ∃ kvs body, m = .dict kvs ∧ c.encode m = .ok body ∧ c.decode body = .ok m ∧
    body.length < 2 ^ 32 ∧ (∃ rcv, c.str m = .ok rcv) ∧
    ∀ i, (∃ snd, c.str (.dict (responseItems kvs (env.clock i))) = .ok snd) ∧
      ∃ b, c.encode (.dict (responseItems kvs (env.clock i))) = .ok b ∧ b.length < 2 ^ 32

section
variable {env c}

/-- While the reader stays, an answerable message is answered, whatever the state. -/
theorem handleMessage_answerable {m : Value} (hm : Answerable env c m) (hopen : env.ReaderStays)
    (t : Host) : ∃ t', handleMessage env c m t = .ret () t' ∧ t'.stdin = t.stdin ∧
      t'.handled = t.handled ++ [m] := by
  obtain ⟨kvs, -, rfl, -, -, -, ⟨rcv, hr⟩, hresp⟩ := hm
  obtain ⟨⟨snd, hs⟩, b, he, hfit⟩ := hresp (t.out.length + 1)
  exact ⟨_, handleMessage_dict env c hopen hr hs he hfit, rfl, rfl⟩

/-- Answerable messages are all handled, whatever the state. -/
theorem forEach_handleMessage {vs : List Value} (hvs : ∀ v ∈ vs, Answerable env c v)
    (hopen : env.ReaderStays) (t : Host) :
    ∃ t', Py.forEach vs (handleMessage env c) t = .ret () t' ∧
      t'.stdin = t.stdin ∧ t'.handled = t.handled ++ vs := by
  induction vs generalizing t with
  | nil => exact ⟨t, rfl, rfl, by simp⟩
  | cons v vs ih =>
    obtain ⟨t₁, h₁, hs₁, hh₁⟩ := handleMessage_answerable (hvs v (List.mem_cons_self _ _)) hopen t
    obtain ⟨t', h, hs, hh⟩ := ih (fun w hw => hvs w (List.mem_cons_of_mem _ hw)) t₁
    exact ⟨t', by rw [Py.forEach_cons, Py.bind_of_ret h₁, h], hs.trans hs₁, by simp [hh, hh₁]⟩

/-- The loop on frames of answerable messages followed by any bytes, while the reader stays:
    it handles the messages in order, then goes on as on the bytes. -/
theorem mainLoop_frames {vs : List Value} (hvs : ∀ v ∈ vs, Answerable env c v)
    (hopen : env.ReaderStays) (rest : List UInt8) (s : Host)
    (hs : s.stdin = frames c env.order vs ++ rest) :
    mainLoop env c s =
      (Py.forEach vs (handleMessage env c) >>= fun _ => mainLoop env c) { s with stdin := rest } := by
  induction vs generalizing s with
  | nil =>
    cases s
    simp only [frames, List.flatMap_nil, List.nil_append] at hs
    subst hs
    rfl
  | cons v vs ih =>
    obtain ⟨kvs, body, rfl, he, hdec, hfit, ⟨rcv, hr⟩, hresp⟩ := hvs _ (List.mem_cons_self _ _)
    obtain ⟨⟨snd, hsnd⟩, b, hb, hbfit⟩ := hresp (s.out.length + 1)
    have h₁ := @receiveMessage_frame env c _ (frames c env.order vs ++ rest) _ _
      (by rw [hs, frames, List.flatMap_cons, he, List.append_assoc]; rfl) hfit hdec
    rw [mainLoop_of_handled env c h₁ rfl
        (handleMessage_dict env c (s := { s with stdin := frames c env.order vs ++ rest }) hopen hr
          hsnd hb hbfit),
      ih (fun w hw => hvs w (List.mem_cons_of_mem _ hw)) _ rfl, Py.forEach_cons, Py.bind_assoc,
      Py.bind_of_ret (handleMessage_dict env c (s := { s with stdin := rest }) hopen hr hsnd hb hbfit)]

end

-- ════════════════════════════════════════════════════════════════════════
-- The host
-- ════════════════════════════════════════════════════════════════════════

/-- The lines the host prints before its loop. -/
def bannerLines : List String :=
  ["=== Proxxy Native Host Debug Script ===",
   "Process ID: " ++ toString env.pid,
   "Script path: " ++ env.scriptPath,
   "Working directory: " ++ env.cwd,
   "Waiting for Chrome Extension connection...",
   "Send messages via stdin, receive via stdout",
   "Press Ctrl+C to exit",
   String.mk (List.replicate 50 '=')]

/-- The prints that open `debug_native_host`. -/
def banner : Py Host Unit := do
  print env "=== Proxxy Native Host Debug Script ==="
  print env ("Process ID: " ++ toString env.pid)
  print env ("Script path: " ++ env.scriptPath)
  print env ("Working directory: " ++ env.cwd)
  print env "Waiting for Chrome Extension connection..."
  print env "Send messages via stdin, receive via stdout"
  print env "Press Ctrl+C to exit"
  print env (String.mk (List.replicate 50 '='))

/-- The `except` clauses of `debug_native_host`. -/
def onStop (e : PyExc) : Py Host Unit :=
  if e.cls = .keyboardInterrupt then print env "\nShutting down debug host..."
  else do
    print env ("Fatal error: " ++ e.msg)
    Py.raise ⟨.systemExit 1, "1"⟩

/-- `debug_native_host()`. -/
def debugNativeHost : Py Host Unit := do
  banner env
  Py.tryCatch (mainLoop env c)
    (fun e => decide (e.cls = .keyboardInterrupt) || e.isException) (onStop env)

/-- The exit status once the interpreter has flushed standard output at exit: the flush fails
    when the reader has gone while bytes are still held, and the status becomes 120, unless an
    escaping `KeyboardInterrupt` has the interpreter kill itself with SIGINT. -/
def finalStatus (r : Result Host Unit) : ExitStatus :=
  match exitStatus r with
  | .signal n => .signal n
  | st => if env.readerGone r.state.out.length && r.state.held then .code 120 else st

/-- `if __name__ == "__main__": debug_native_host()` on standard input `input`: the exit
    status and the writes to standard output. -/
def main (input : List UInt8) : ExitStatus × List Out :=
  let r := debugNativeHost env c (Host.init input)
  (finalStatus env r, r.state.out)

theorem textOnly_banner : TextOnly (banner env) := by
  unfold banner
  repeat' first | exact TextOnly.print env _ | refine (TextOnly.print env _).seq ?_

theorem textOnly_onStop (e : PyExc) : TextOnly (onStop env e) :=
  TextOnly.ite (TextOnly.print env _) ((TextOnly.print env _).seq (TextOnly.raise _))

/-- The state the loop starts from, once the banner is printed to a reader that stays. -/
def afterBanner (input : List UInt8) : Host :=
  ⟨input, (bannerLines env).map .text, !env.textFlush 7, []⟩

theorem debugNativeHost_apply (hopen : env.ReaderStays) (input : List UInt8) :
    debugNativeHost env c (Host.init input) =
      Py.tryCatch (mainLoop env c)
        (fun e => decide (e.cls = .keyboardInterrupt) || e.isException) (onStop env)
        (afterBanner env input) := by
  have hb : banner env (Host.init input) = .ret () (afterBanner env input) := by
    simp [banner, Py.bind_apply, print_of_stays env hopen, Host.init, afterBanner, bannerLines]
  rw [debugNativeHost, Py.bind_of_ret hb]

-- ════════════════════════════════════════════════════════════════════════
-- Frames in, messages handled
-- ════════════════════════════════════════════════════════════════════════

/-- While the reader stays, frames of answerable messages, then any bytes: the loop handles
    the messages in order and goes on as on the bytes. On the frames alone, with the input
    ending after them and no Ctrl+C, the host handles exactly those messages and exits with
    status 0. -/
theorem host_handles_object_frames (env : Env) (c : Codec) (vs : List Value)
    (hvs : ∀ v ∈ vs, Answerable env c v) (hopen : env.ReaderStays) :
    (∀ rest s, s.stdin = frames c env.order vs ++ rest →
      mainLoop env c s =
        (Py.forEach vs (handleMessage env c) >>= fun _ => mainLoop env c)
          { s with stdin := rest }) ∧
    (env.interrupted = false →
      (debugNativeHost env c (Host.init (frames c env.order vs))).state.handled = vs ∧
      (main env c (frames c env.order vs)).1 = .code 0) := by
  refine ⟨fun rest s hs => mainLoop_frames hvs hopen rest s hs, fun he => ?_⟩
  obtain ⟨t', h, hs, hh⟩ := forEach_handleMessage hvs hopen
    { afterBanner env (frames c env.order vs) with stdin := [] }
  have hloop : mainLoop env c (afterBanner env (frames c env.order vs)) = .ret () t' := by
    rw [mainLoop_frames hvs hopen [] _ (by simp [afterBanner]), Py.bind_of_ret h,
      mainLoop_of_none env c (receiveMessage_eof env c hs he) rfl]
  have hrun : debugNativeHost env c (Host.init (frames c env.order vs)) = .ret () t' := by
    simp only [debugNativeHost_apply env c hopen, Py.tryCatch, hloop]
  simp [main, finalStatus, hrun, exitStatus, Result.state, hh, afterBanner, hopen _]

theorem pingMessage_answerable : Answerable quietEnv (Codec.python pythonDepths) pingMessage :=
  have hfit : (Json.encodeUtf8 (Json.dumps pingMessage)).length < 2 ^ 32 := by decide
  have hresp : (Json.encodeUtf8 (Json.dumps (.dict (responseItems pingItems 0)))).length <
      2 ^ 32 := by decide
  ⟨pingItems, Json.encodeUtf8 (Json.dumps pingMessage), rfl, rfl, rfl, hfit, ⟨_, rfl⟩,
    fun _ => ⟨⟨_, rfl⟩, Json.encodeUtf8 (Json.dumps (.dict (responseItems pingItems 0))), rfl,
      hresp⟩⟩

theorem host_handles_object_frames_ping :
    (∀ v ∈ [pingMessage], Answerable quietEnv (Codec.python pythonDepths) v) ∧
    quietEnv.ReaderStays ∧
    (∀ rest s, s.stdin = frames (Codec.python pythonDepths) quietEnv.order [pingMessage] ++ rest →
      mainLoop quietEnv (Codec.python pythonDepths) s =
        (Py.forEach [pingMessage] (handleMessage quietEnv (Codec.python pythonDepths)) >>=
          fun _ => mainLoop quietEnv (Codec.python pythonDepths)) { s with stdin := rest }) ∧
    (quietEnv.interrupted = false →
      (debugNativeHost quietEnv (Codec.python pythonDepths)
        (Host.init (frames (Codec.python pythonDepths) quietEnv.order [pingMessage]))).state.handled =
          [pingMessage] ∧
      (main quietEnv (Codec.python pythonDepths)
        (frames (Codec.python pythonDepths) quietEnv.order [pingMessage])).1 = .code 0) :=
  have h : ∀ v ∈ [pingMessage], Answerable quietEnv (Codec.python pythonDepths) v := by
    simpa using pingMessage_answerable
  have hopen : quietEnv.ReaderStays := fun _ => rfl
  ⟨h, hopen, host_handles_object_frames quietEnv (Codec.python pythonDepths) [pingMessage] h hopen⟩

/-- A frame holding JSON `null` is read and decoded, and ends the loop as end of input does:
    its value is never handled. -/
theorem host_stops_at_null_frame : ¬ ∀ (env : Env) (c : Codec) (vs : List Value),
    (∀ v ∈ vs, ∃ body, c.encode v = .ok body ∧ c.decode body = .ok v ∧ body.length < 2 ^ 32) →
    (debugNativeHost env c (Host.init (frames c env.order vs))).state.handled = vs := by
  intro h
  have hopen : quietEnv.ReaderStays := fun _ => rfl
  have he : (Codec.python pythonDepths).encode .null = .ok (Json.encodeUtf8 "null") := rfl
  have hnull : (Codec.python pythonDepths).decode (Json.encodeUtf8 "null") = .ok .null := rfl
  have hfit : (Json.encodeUtf8 "null").length < 2 ^ 32 := by decide
  have hr := @receiveMessage_frame quietEnv (Codec.python pythonDepths) _ [] _
    (afterBanner quietEnv (frames (Codec.python pythonDepths) quietEnv.order [.null]))
    (by simp [afterBanner, frames, he]) hfit hnull
  have hrun := h quietEnv (Codec.python pythonDepths) [.null] fun v hv => by
    rw [List.mem_singleton.1 hv]
    exact ⟨_, he, hnull, hfit⟩
  simp only [debugNativeHost_apply _ _ hopen, Py.tryCatch, mainLoop_of_none _ _ hr rfl] at hrun
  simp [Result.state, afterBanner] at hrun

-- ════════════════════════════════════════════════════════════════════════
-- What reaches standard output
-- ════════════════════════════════════════════════════════════════════════

/-- One answered message: its items, the clock reading its response carries, and the body
    the response encodes to. -/
structure Reply where
  items : List (String × Value)
  time : ℚ
  body : List UInt8

/-- The shape of what the main loop writes, given the messages it handed to
    `handle_message`: the turn of each answered message, then text only; or, when the last
    handler raised, that message's text only. -/
inductive Answered : List Out → List Value → Prop
  | stop {new : List Out} : binaryWrites new = [] → Answered new []
  | crash {new : List Out} (m : Value) : binaryWrites new = [] → Answered new [m]
  | reply {new : List Out} {ms : List Value} (r : Reply) (rcv snd : String) :
      c.encode (.dict (responseItems r.items r.time)) = .ok r.body →
      Answered new ms → Answered (turn env rcv snd r.body ++ new) (.dict r.items :: ms)

/-- The binary writes of an answered run are the frames of the responses to the handled
    messages, in order; only the last handled message may have none. -/
theorem Answered.replies {new : List Out} {ms : List Value} (h : Answered env c new ms) :
    ∃ replies : List Reply,
      binaryWrites new = replies.map (fun r => frame env.order r.body) ∧
      (∀ r ∈ replies, c.encode (.dict (responseItems r.items r.time)) = .ok r.body) ∧
      replies.map (fun r => Value.dict r.items) <+: ms ∧ ms.length ≤ replies.length + 1 := by
  induction h with
  | stop hb => exact ⟨[], hb, by simp, List.nil_prefix, by simp⟩
  | crash m hb => exact ⟨[], hb, by simp, List.nil_prefix, by simp⟩
  | reply r rcv snd he _ ih =>
    obtain ⟨rs, hb, he', hp, hl⟩ := ih
    exact ⟨r :: rs, by simp [turn, hb], List.forall_mem_cons.2 ⟨he, he'⟩,
      List.cons_prefix_cons.2 ⟨rfl, hp⟩, by simp [hl]⟩

/-- From any state the main loop writes an answered run. -/
theorem mainLoop_answered (s : Host) :
    ∃ new ms, (mainLoop env c s).state.out = s.out ++ new ∧
      (mainLoop env c s).state.handled = s.handled ++ ms ∧ Answered env c new ms := by
  obtain ⟨n, hn⟩ : ∃ n, s.stdin.length = n := ⟨_, rfl⟩
  induction n using Nat.strong_induction_on generalizing s with
  | _ n ih =>
  rcases receiveMessage_spec env c s with
    ⟨v, s₁, h, hh, ⟨pre, ho, hb⟩, hv'⟩ | ⟨e, s₁, h, ho, hh⟩
  · cases hv : isNone v
    · obtain ⟨ho₁, hlen⟩ := hv' hv
      rcases handleMessage_spec env c v s₁ with
        ⟨kvs, rcv, snd, body, rfl, he, s₂, h₂, ho₂, hh₂, hi₂⟩ | ⟨e, s₂, h₂, ⟨new, ho₂, hb₂⟩, hh₂, -⟩
      · obtain ⟨new, ms, h₃, h₄, h₅⟩ := ih s₂.stdin.length (by rw [hi₂]; omega) s₂ rfl
        rw [mainLoop_of_handled env c h hv h₂]
        exact ⟨turn env rcv snd body ++ new, .dict kvs :: ms, by rw [h₃, ho₂, ho₁]; simp,
          by rw [h₄, hh₂, hh]; simp, .reply ⟨kvs, readingAt env s₁, body⟩ rcv snd he h₅⟩
      · rw [mainLoop_of_crash env c h hv h₂]
        exact ⟨new, [v], by simp [Result.state, ho₂, ho₁], by simp [Result.state, hh₂, hh],
          .crash v hb₂⟩
    · rw [mainLoop_of_none env c h hv]
      exact ⟨pre, [], by simp [Result.state, ho], by simp [Result.state, hh], .stop hb⟩
  · rw [mainLoop_of_raise env c h]
    exact ⟨[], [], by simp [Result.state, ho], by simp [Result.state, hh], .stop rfl⟩

/-- Everything the host writes in binary: an answered run of the loop, whatever the banner and
    the `except` clauses print, and whether or not the banner got through. -/
theorem debugNativeHost_out (input : List UInt8) :
    ∃ new, binaryWrites (debugNativeHost env c (Host.init input)).state.out = binaryWrites new ∧
      Answered env c new (debugNativeHost env c (Host.init input)).state.handled := by
  obtain ⟨pre, ho₀, hb₀, -, hh₀⟩ := textOnly_banner env (Host.init input)
  rw [debugNativeHost, Py.bind_apply]
  cases hban : banner env (Host.init input) with
  | raise e s₁ =>
    rw [hban] at ho₀ hh₀
    simp only [Result.state, Host.init, List.nil_append] at ho₀ hh₀ ⊢
    have hs : Answered env c [] [] := .stop rfl
    exact ⟨[], by rw [ho₀, hb₀]; rfl, hh₀ ▸ hs⟩
  | ret u s₁ =>
    rw [hban] at ho₀ hh₀
    simp only [Result.state, Host.init, List.nil_append] at ho₀ hh₀
    obtain ⟨new, ms, ho, hh, ha⟩ := mainLoop_answered env c s₁
    obtain ⟨tail, ho', hb', hh'⟩ := TextOnly.tryCatch_state (mainLoop env c)
      (fun e => decide (e.cls = .keyboardInterrupt) || e.isException) (textOnly_onStop env) s₁
    rw [hh₀, List.nil_append] at hh
    dsimp only
    exact ⟨new, by simp [ho', ho, ho₀, hb₀, hb'], by rw [hh', hh]; exact ha⟩

/-- Whatever the input, and whatever becomes of the reader, the binary writes to standard
    output are `send_message`'s frames of the responses to the handled messages, in order, each
    the encoding of its response, which carries the message's `id` (or `"unknown"`) and
    `success: True`; only the last handled message may have none, when its handler raised. -/
theorem host_binary_writes_are_reply_frames (env : Env) (c : Codec) (input : List UInt8) :
    ∃ replies : List Reply,
      binaryWrites (main env c input).2 = replies.map (fun r => frame env.order r.body) ∧
      replies.map (fun r => Value.dict r.items) <+:
        (debugNativeHost env c (Host.init input)).state.handled ∧
      (debugNativeHost env c (Host.init input)).state.handled.length ≤ replies.length + 1 ∧
      ∀ r ∈ replies, c.encode (.dict (responseItems r.items r.time)) = .ok r.body ∧
        Value.lookup (responseItems r.items r.time) "id" =
          some ((Value.lookup r.items "id").getD (.str "unknown")) ∧
        Value.lookup (responseItems r.items r.time) "success" = some (.bool true) := by
  obtain ⟨new, hb, ha⟩ := debugNativeHost_out env c input
  obtain ⟨rs, hr, he, hp, hl⟩ := ha.replies
  exact ⟨rs, by rw [← hr, ← hb]; rfl, hp, hl,
    fun r hr' => ⟨he r hr', responseItems_id_success r.items r.time⟩⟩

/-- While the reader stays, the host's writes open with its banner. -/
theorem banner_prefix (hopen : env.ReaderStays) (input : List UInt8) :
    (bannerLines env).map Out.text <+: (main env c input).2 := by
  obtain ⟨new, -, ho, -, -⟩ := mainLoop_answered env c (afterBanner env input)
  obtain ⟨tail, ho', -, -⟩ := TextOnly.tryCatch_state (mainLoop env c)
    (fun e => decide (e.cls = .keyboardInterrupt) || e.isException) (textOnly_onStop env)
    (afterBanner env input)
  simp only [main, debugNativeHost_apply env c hopen]
  exact ⟨new ++ tail, by rw [ho', ho, List.append_assoc]; rfl⟩

/-- Standard output carries more than frames: on empty input the host writes its banner
    there. -/
theorem host_prints_banner_to_stdout : ¬ ∀ (env : Env) (c : Codec) (input : List UInt8),
    ∀ o ∈ (main env c input).2, ∃ b, o = .bytes b := by
  intro h
  obtain ⟨rest, hr⟩ := banner_prefix quietEnv (Codec.python pythonDepths) (fun _ => rfl) []
  obtain ⟨b, hb⟩ := h quietEnv (Codec.python pythonDepths) []
    (.text "=== Proxxy Native Host Debug Script ===") (by rw [← hr]; simp [bannerLines])
  cases hb

end Proxxy.NativeHost

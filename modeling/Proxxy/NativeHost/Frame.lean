import Proxxy.Python.Exec
import Proxxy.Python.JsonRoundTrip

/-!
# The debug native host: streams and frames

`debug-native-host.py` talks to the browser over its standard streams. A message travels as
a frame: its length as `struct.pack('I', n)`, four bytes in the machine's byte order, then
`n` bytes of UTF-8 JSON. `send_message` writes one frame to `sys.stdout.buffer`.
`receive_message` reads one from `sys.stdin.buffer`; it answers `None` at end of input and,
after printing the error, on any `Exception`.

## Main definitions

- `packU32`, `unpackU32` — `struct.pack('I', n)` and `struct.unpack('I', raw)[0]`.
- `Codec` — the library calls the host makes on values, each of which may raise;
  `Codec.python` makes them as CPython does, with the recursion levels each call has left.
- `Host` — the rest of standard input, the writes to standard output, whether standard output
  still holds bytes, and the messages handed to `handle_message` so far.
- `sendMessage`, `receiveMessage` — `send_message` and `receive_message`.

## Main results

- `receiveMessage_sendMessage` — with the CPython codec, `receive_message` reads back the
  message whose frame `send_message` wrote, for every value without a `float` or a repeated
  key that nests within the levels both calls have left, whose encoding fits a length field,
  while the reader keeps standard output open.

## Design notes

Standard output has two layers on a pipe. `print` writes to the text layer, whose buffer hands
its lines on only when it fills; `send_message` writes to the binary layer and flushes it at
once. `Host.out` lists the writes in program order, so the text in it may reach the reader
after frames that follow it. Python ignores SIGPIPE: once the reader has closed its end, a
write that reaches the pipe raises `BrokenPipeError` and its bytes stay held. When the text
layer fills, and when the reader goes, are the environment's to say.

A Ctrl+C is modelled where the host spends its time, waiting for input: when the bytes it asks
for are not all there, the input either ends or the user interrupts.
-/

namespace Proxxy.NativeHost
open Python

/-- The machine's byte order, in which `struct.pack('I', n)` writes `n`. -/
inductive ByteOrder where
  | little | big
  deriving DecidableEq, Repr

/-- The four bytes of `n < 2 ^ 32` in byte order `o`. -/
def u32Bytes (o : ByteOrder) (n : Nat) : List UInt8 :=
  let le := [n % 256, n / 256 % 256, n / 65536 % 256, n / 16777216 % 256].map UInt8.ofNat
  match o with
  | .little => le
  | .big => le.reverse

/-- `struct.pack('I', n)`. -/
def packU32 (o : ByteOrder) (n : Nat) : Except PyExc (List UInt8) :=
  if n < 2 ^ 32 then .ok (u32Bytes o n)
  else .error ⟨.structError, "'I' format requires 0 <= number <= 4294967295"⟩

theorem packU32_of_lt {o : ByteOrder} {n : Nat} (h : n < 2 ^ 32) :
    packU32 o n = .ok (u32Bytes o n) := if_pos h

theorem packU32_of_le {o : ByteOrder} {n : Nat} (h : 2 ^ 32 ≤ n) :
    packU32 o n = .error ⟨.structError, "'I' format requires 0 <= number <= 4294967295"⟩ :=
  if_neg (Nat.not_lt.2 h)

/-- `struct.unpack('I', raw)[0]`. -/
def unpackU32 (o : ByteOrder) (raw : List UInt8) : Except PyExc Nat :=
  match (match o with | .little => raw | .big => raw.reverse) with
  | [a, b, c, d] => .ok (a.toNat + 256 * b.toNat + 65536 * c.toNat + 16777216 * d.toNat)
  | _ => .error ⟨.structError, "unpack requires a buffer of 4 bytes"⟩

@[simp] theorem u32Bytes_length (o : ByteOrder) (n : Nat) : (u32Bytes o n).length = 4 := by
  cases o <;> rfl

/-- `struct.unpack` reads back what `struct.pack` wrote. -/
theorem unpackU32_u32Bytes (o : ByteOrder) {n : Nat} (h : n < 2 ^ 32) :
    unpackU32 o (u32Bytes o n) = .ok n := by
  have hb : ∀ k, (UInt8.ofNat k).toNat = k % 256 := fun _ => rfl
  cases o <;> simp only [unpackU32, u32Bytes, List.map, List.reverse_cons, List.reverse_nil,
    List.nil_append, List.cons_append, hb, Except.ok.injEq] <;> omega

/-- Four bytes always unpack. -/
theorem unpackU32_of_length (o : ByteOrder) {raw : List UInt8} (h : raw.length = 4) :
    ∃ n, unpackU32 o raw = .ok n := by
  match raw, h with
  | [a, b, c, d], _ => cases o <;> exact ⟨_, rfl⟩

-- ════════════════════════════════════════════════════════════════════════
-- The host's state
-- ════════════════════════════════════════════════════════════════════════

/-- The library calls the host makes on values: `json.dumps(v).encode('utf-8')`,
    `json.loads(raw.decode('utf-8'))`, and `f"{v}"`. Each may raise. -/
structure Codec where
  encode : Value → Except PyExc (List UInt8)
  decode : List UInt8 → Except PyExc Value
  str : Value → Except PyExc String

/-- How many levels of the interpreter's recursion limit each of the host's calls still has:
    the limit less the frames below the call. -/
structure Depths where
  /-- At `json.loads` in `receive_message`. -/
  loads : Nat
  /-- At `json.dumps` in `send_message`. -/
  dumps : Nat
  /-- At the f-strings of `handle_message`. -/
  format : Nat

/-- The calls as CPython makes them, with the levels `d` leaves them. -/
def Codec.python (d : Depths) : Codec where
  encode v := Json.encodeUtf8 <$> Json.dumpsAt d.dumps v
  decode raw := Json.decodeUtf8 raw >>= Json.loads d.loads
  str := Json.formatAt d.format

/-- What the host reads from its surroundings. -/
structure Env where
  order : ByteOrder
  pid : Nat
  /-- `os.path.abspath(__file__)`. -/
  scriptPath : String
  /-- `os.getcwd()`. -/
  cwd : String
  /-- `time.time()`, by the number of writes to standard output made before the call. -/
  clock : Nat → ℚ
  /-- Whether the user presses Ctrl+C once the host waits for bytes that have not come,
      rather than the input ending. -/
  interrupted : Bool
  /-- Whether the reader has closed its end of standard output once the host has made `k`
      writes. -/
  readerGone : Nat → Bool
  /-- Whether the `k`-th write, when it is a `print`, fills the text layer's buffer, so that
      the layer hands all it holds to the pipe. -/
  textFlush : Nat → Bool

/-- The reader keeps standard output open for the whole run. -/
def Env.ReaderStays (env : Env) : Prop := ∀ k, env.readerGone k = false

/-- One write to standard output: a printed line, without its newline, or bytes. -/
inductive Out where
  | text (line : String)
  | bytes (b : List UInt8)

/-- The bytes written to `sys.stdout.buffer`, write by write. -/
def binaryWrites : List Out → List (List UInt8)
  | [] => []
  | .text _ :: out => binaryWrites out
  | .bytes b :: out => b :: binaryWrites out

@[simp] theorem binaryWrites_nil : binaryWrites [] = [] := rfl

@[simp] theorem binaryWrites_append (a b : List Out) :
    binaryWrites (a ++ b) = binaryWrites a ++ binaryWrites b := by
  induction a with
  | nil => rfl
  | cons o a ih => cases o <;> simp [binaryWrites, ih]

@[simp] theorem binaryWrites_cons_text (line : String) (out : List Out) :
    binaryWrites (.text line :: out) = binaryWrites out := rfl

@[simp] theorem binaryWrites_cons_bytes (b : List UInt8) (out : List Out) :
    binaryWrites (.bytes b :: out) = b :: binaryWrites out := rfl

/-- The host: the rest of standard input, the writes to standard output, whether standard
    output holds bytes it has not handed to the pipe, and the messages handed to
    `handle_message`. The last is observation only: the host never reads it. -/
structure Host where
  stdin : List UInt8
  out : List Out
  held : Bool
  handled : List Value

/-- The host started on standard input `input`. -/
def Host.init (input : List UInt8) : Host := ⟨input, [], false, []⟩

variable (env : Env) (c : Codec)

/-- The `BrokenPipeError` of a write that reaches a pipe whose reader has gone. -/
def brokenPipe : PyExc := ⟨.brokenPipeError, "[Errno 32] Broken pipe"⟩

/-- `print(line)`: the line joins the text layer, which hands everything to the pipe when its
    buffer fills. -/
def print (line : String) : Py Host Unit := fun s =>
  if env.textFlush s.out.length then
    if env.readerGone s.out.length then .raise brokenPipe { s with held := true }
    else .ret () { s with out := s.out ++ [.text line], held := false }
  else .ret () { s with out := s.out ++ [.text line], held := true }

/-- `sys.stdout.buffer.write(b)` and the `flush` that follows it. The text layer keeps what it
    holds. -/
def writeBytes (b : List UInt8) : Py Host Unit := fun s =>
  if env.readerGone s.out.length then .raise brokenPipe { s with held := true }
  else .ret () { s with out := s.out ++ [.bytes b] }

/-- `sys.stdin.buffer.read(n)`: `n` bytes, or at end of input what is left; a Ctrl+C while
    it waits for more raises `KeyboardInterrupt`. -/
def read (n : Nat) : Py Host (List UInt8) := fun s =>
  if n ≤ s.stdin.length then .ret (s.stdin.take n) { s with stdin := s.stdin.drop n }
  else if env.interrupted then .raise ⟨.keyboardInterrupt, ""⟩ s
  else .ret s.stdin { s with stdin := [] }

/-- `time.time()`. -/
def now : Py Host ℚ := fun s => .ret (env.clock s.out.length) s

/-- While the reader stays, a line is printed, and the text layer holds it unless the line
    filled its buffer. -/
theorem print_of_open {line : String} {s : Host} (h : env.readerGone s.out.length = false) :
    print env line s =
      .ret () { s with out := s.out ++ [.text line], held := !env.textFlush s.out.length } := by
  unfold print
  cases env.textFlush s.out.length <;> simp [h]

/-- A `print` either writes its line or raises `BrokenPipeError` having written nothing. -/
theorem print_spec (line : String) (s : Host) :
    (∃ held, print env line s = .ret () { s with out := s.out ++ [.text line], held := held }) ∨
    print env line s = .raise brokenPipe { s with held := true } := by
  unfold print
  split
  · split
    · exact .inr rfl
    · exact .inl ⟨_, rfl⟩
  · exact .inl ⟨_, rfl⟩

theorem print_of_stays (hopen : env.ReaderStays) (line : String) (s : Host) :
    print env line s =
      .ret () { s with out := s.out ++ [.text line], held := !env.textFlush s.out.length } :=
  print_of_open env (hopen _)

theorem writeBytes_of_open {b : List UInt8} {s : Host} (h : env.readerGone s.out.length = false) :
    writeBytes env b s = .ret () { s with out := s.out ++ [.bytes b] } := by
  simp [writeBytes, h]

@[simp] theorem now_apply (s : Host) : now env s = .ret (env.clock s.out.length) s := rfl

-- ════════════════════════════════════════════════════════════════════════
-- Writing only text
-- ════════════════════════════════════════════════════════════════════════

/-- `x` writes nothing but text, and leaves standard input and the handled messages alone,
    whether it returns or raises. -/
def TextOnly {α : Type} (x : Py Host α) : Prop :=
  ∀ s, ∃ new, (x s).state.out = s.out ++ new ∧ binaryWrites new = [] ∧
    (x s).state.stdin = s.stdin ∧ (x s).state.handled = s.handled

namespace TextOnly

variable {α β : Type}

theorem pure (a : α) : TextOnly (Pure.pure a : Py Host α) := fun _ => ⟨[], by simp [Result.state]⟩

theorem raise (e : PyExc) : TextOnly (Py.raise e : Py Host α) :=
  fun _ => ⟨[], by simp [Result.state]⟩

theorem lift (x : Except PyExc α) : TextOnly (Py.lift x : Py Host α) := by
  intro s; cases x <;> exact ⟨[], by simp [Result.state]⟩

theorem now : TextOnly (NativeHost.now env) := fun _ => ⟨[], by simp [Result.state]⟩

theorem print (line : String) : TextOnly (NativeHost.print env line) := by
  intro s
  unfold NativeHost.print
  split
  · split
    · exact ⟨[], by simp [Result.state]⟩
    · exact ⟨[.text line], by simp [Result.state]⟩
  · exact ⟨[.text line], by simp [Result.state]⟩

theorem bind {x : Py Host α} {k : α → Py Host β} (hx : TextOnly x) (hk : ∀ a, TextOnly (k a)) :
    TextOnly (x >>= k) := by
  intro s
  obtain ⟨n₁, o₁, b₁, i₁, h₁⟩ := hx s
  rw [Py.bind_apply]
  cases hxs : x s with
  | ret a s' =>
    simp only [hxs, Result.state] at o₁ i₁ h₁
    obtain ⟨n₂, o₂, b₂, i₂, h₂⟩ := hk a s'
    exact ⟨n₁ ++ n₂, by rw [o₂, o₁, List.append_assoc], by simp [b₁, b₂], i₂.trans i₁, h₂.trans h₁⟩
  | raise e s' => rw [hxs] at o₁ i₁ h₁; exact ⟨n₁, o₁, b₁, i₁, h₁⟩

theorem seq {x : Py Host α} {y : Py Host β} (hx : TextOnly x) (hy : TextOnly y) :
    TextOnly (x >>= fun _ => y) := hx.bind fun _ => hy

theorem ite {c : Prop} [Decidable c] {x y : Py Host α} (hx : TextOnly x) (hy : TextOnly y) :
    TextOnly (if c then x else y) := by
  split <;> assumption

/-- A handler that writes text only adds text only to what its body left. -/
theorem tryCatch_state (body : Py Host α) (catches : PyExc → Bool) {handler : PyExc → Py Host α}
    (hh : ∀ e, TextOnly (handler e)) (s : Host) :
    ∃ new, (Py.tryCatch body catches handler s).state.out = (body s).state.out ++ new ∧
      binaryWrites new = [] ∧
      (Py.tryCatch body catches handler s).state.handled = (body s).state.handled := by
  simp only [Py.tryCatch]
  cases body s with
  | ret a s' => exact ⟨[], by simp [Result.state]⟩
  | raise e s' =>
    dsimp only
    split
    · obtain ⟨new, ho, hb, -, hh⟩ := hh e s'
      exact ⟨new, ho, hb, hh⟩
    · exact ⟨[], by simp [Result.state]⟩

end TextOnly

-- ════════════════════════════════════════════════════════════════════════
-- Frames
-- ════════════════════════════════════════════════════════════════════════

/-- `send_message(message)`. -/
def sendMessage (message : Value) : Py Host Unit := do
  let encoded ← Py.lift (c.encode message)
  let header ← Py.lift (packU32 env.order encoded.length)
  writeBytes env (header ++ encoded)

/-- The `try` body of `receive_message`: read a length and that many bytes, and decode
    them; no bytes at all give `None`. -/
def readFrame : Py Host Value := do
  let raw ← read env 4
  if raw.length = 0 then pure .null
  else do
    let n ← Py.lift (unpackU32 env.order raw)
    let body ← read env n
    Py.lift (c.decode body)

/-- `receive_message()`: the decoded message, `None` at end of input or after printing the
    `Exception` that stopped it. `KeyboardInterrupt` is no `Exception` and escapes. -/
def receiveMessage : Py Host Value :=
  Py.tryCatch (readFrame env c) PyExc.isException fun e => do
    print env ("Error receiving message: " ++ e.msg)
    pure .null

/-- `message is None`. -/
def isNone : Value → Bool
  | .null => true
  | _ => false

/-- The bytes `send_message` writes for a body: its length, then the body. -/
def frame (o : ByteOrder) (body : List UInt8) : List UInt8 := u32Bytes o body.length ++ body

/-- The frames `send_message` writes for several messages, one after another. -/
def frames (o : ByteOrder) (vs : List Value) : List UInt8 :=
  vs.flatMap fun v =>
    match c.encode v with
    | .ok body => frame o body
    | .error _ => []

/-- A message that encodes to a body short enough for its length field is written as one
    frame while the reader stays. -/
theorem sendMessage_apply {m : Value} {body : List UInt8} {s : Host} (he : c.encode m = .ok body)
    (hfit : body.length < 2 ^ 32) (hopen : env.readerGone s.out.length = false) :
    sendMessage env c m s = .ret () { s with out := s.out ++ [.bytes (frame env.order body)] } := by
  simp only [sendMessage, he, packU32_of_lt hfit, Py.bind_apply, Py.lift_ok,
    writeBytes_of_open env hopen]
  rfl

/-- Everything `send_message` can do: write the frame of the message's encoding, or raise
    having written nothing: the exception of the encoding, `struct.error` for a body too long
    for its length field, or `BrokenPipeError`. -/
theorem sendMessage_spec (m : Value) (s : Host) :
    (∃ body, c.encode m = .ok body ∧
      sendMessage env c m s = .ret () { s with out := s.out ++ [.bytes (frame env.order body)] }) ∨
    ∃ e s', sendMessage env c m s = .raise e s' ∧ s'.out = s.out ∧ s'.stdin = s.stdin ∧
      s'.handled = s.handled := by
  cases he : c.encode m with
  | error e => exact .inr ⟨e, s, by simp [sendMessage, he, Py.bind_apply], rfl, rfl, rfl⟩
  | ok body =>
    by_cases hfit : body.length < 2 ^ 32
    · by_cases hg : env.readerGone s.out.length
      · refine .inr ⟨brokenPipe, { s with held := true }, ?_, rfl, rfl, rfl⟩
        simp [sendMessage, he, packU32_of_lt hfit, Py.bind_apply, writeBytes, hg]
      · exact .inl ⟨body, rfl, sendMessage_apply env c he hfit (by simpa using hg)⟩
    · refine .inr ⟨⟨.structError, "'I' format requires 0 <= number <= 4294967295"⟩, s, ?_, rfl,
        rfl, rfl⟩
      simp [sendMessage, he, packU32_of_le (Nat.le_of_not_lt hfit), Py.bind_apply]

theorem read_of_le {n : Nat} {s : Host} (h : n ≤ s.stdin.length) :
    read env n s = .ret (s.stdin.take n) { s with stdin := s.stdin.drop n } := if_pos h

theorem read_of_lt {n : Nat} {s : Host} (h : s.stdin.length < n) :
    read env n s = if env.interrupted then .raise ⟨.keyboardInterrupt, ""⟩ s
      else .ret s.stdin { s with stdin := [] } := if_neg (Nat.not_le.2 h)

/-- Once four bytes are there, `receive_message` reads the body their length announces. -/
theorem readFrame_of_header {s : Host} {n : Nat} (h4 : 4 ≤ s.stdin.length)
    (hn : unpackU32 env.order (s.stdin.take 4) = .ok n) :
    readFrame env c s = (read env n >>= fun body => Py.lift (c.decode body))
      { s with stdin := s.stdin.drop 4 } := by
  have hl : (s.stdin.take 4).length ≠ 0 := by rw [List.length_take]; omega
  rw [readFrame, Py.bind_of_ret (read_of_le env h4)]
  simp only [hl, if_false, Py.bind_apply, hn, Py.lift]

/-- With fewer than four bytes left and no Ctrl+C, the header read ends the input. -/
theorem readFrame_of_short {s : Host} (h4 : s.stdin.length < 4) (he : env.interrupted = false) :
    readFrame env c s = (if s.stdin.length = 0 then pure Value.null else do
      let n ← Py.lift (unpackU32 env.order s.stdin)
      let body ← read env n
      Py.lift (c.decode body)) { s with stdin := [] } := by
  rw [readFrame, Py.bind_of_ret (by rw [read_of_lt env h4, he]; rfl)]

/-- Fewer than four bytes do not unpack. -/
theorem unpackU32_short (o : ByteOrder) {raw : List UInt8} (h : raw.length < 4)
    (h0 : raw.length ≠ 0) :
    unpackU32 o raw = .error ⟨.structError, "unpack requires a buffer of 4 bytes"⟩ := by
  match raw, h, h0 with
  | [], _, h0 => exact absurd rfl h0
  | [_], _, _ | [_, _], _, _ | [_, _, _], _, _ => cases o <;> rfl
  | _ :: _ :: _ :: _ :: _, h, _ => simp at h; omega

/-- A whole frame at the head of standard input: its body is read and decoded. -/
theorem readFrame_frame {body rest : List UInt8} {s : Host}
    (hs : s.stdin = frame env.order body ++ rest) (hfit : body.length < 2 ^ 32) :
    readFrame env c s = (Py.lift (c.decode body) : Py Host Value) { s with stdin := rest } := by
  have hd : s.stdin.drop 4 = body ++ rest := by
    rw [hs, frame, List.append_assoc, List.drop_left' (u32Bytes_length _ _)]
  have hn : unpackU32 env.order (s.stdin.take 4) = .ok body.length := by
    rw [hs, frame, List.append_assoc, List.take_left' (u32Bytes_length _ _)]
    exact unpackU32_u32Bytes _ hfit
  have hr : read env body.length { s with stdin := s.stdin.drop 4 } =
      .ret body { s with stdin := rest } := by
    rw [read_of_le env (by simp [hd])]
    simp [hd]
  rw [readFrame_of_header env c (by simp [hs, frame]) hn, Py.bind_of_ret hr]

theorem receiveMessage_of_ret {v : Value} {s s' : Host} (h : readFrame env c s = .ret v s') :
    receiveMessage env c s = .ret v s' := by
  simp [receiveMessage, Py.tryCatch, h]

/-- A whole frame at the head of standard input is read and decoded. -/
theorem receiveMessage_frame {body rest : List UInt8} {m : Value} {s : Host}
    (hs : s.stdin = frame env.order body ++ rest) (hfit : body.length < 2 ^ 32)
    (hdec : c.decode body = .ok m) :
    receiveMessage env c s = .ret m { s with stdin := rest } :=
  receiveMessage_of_ret env c (by rw [readFrame_frame env c hs hfit, hdec]; rfl)

/-- At end of input `receive_message` answers `None` and writes nothing. -/
theorem receiveMessage_eof {s : Host} (hs : s.stdin = []) (he : env.interrupted = false) :
    receiveMessage env c s = .ret .null s := by
  refine receiveMessage_of_ret env c ?_
  rw [readFrame_of_short env c (by simp [hs]) he, if_pos (by simp [hs])]
  cases s
  subst hs
  rfl

theorem read_spec (n : Nat) (t : Host) :
    (∃ b t', read env n t = .ret b t' ∧ t'.out = t.out ∧ t'.handled = t.handled ∧
      t'.stdin.length ≤ t.stdin.length) ∨
    read env n t = .raise ⟨.keyboardInterrupt, ""⟩ t := by
  unfold read
  split
  · exact .inl ⟨_, _, rfl, rfl, rfl, by simp⟩
  · split
    · exact .inr rfl
    · exact .inl ⟨_, _, rfl, rfl, rfl, by simp⟩

/-- Reading a body and decoding it writes nothing and hands nothing on. -/
theorem readBody_spec (n : Nat) (t : Host) :
    (∃ v t', (read env n >>= fun body => Py.lift (c.decode body)) t = .ret v t' ∧
      t'.out = t.out ∧ t'.handled = t.handled ∧ t'.stdin.length ≤ t.stdin.length) ∨
    ∃ e t', (read env n >>= fun body => Py.lift (c.decode body)) t = .raise e t' ∧
      t'.out = t.out ∧ t'.handled = t.handled := by
  rcases read_spec env n t with ⟨b, t', h, ho, hh, hl⟩ | h
  · rw [Py.bind_of_ret h]
    cases hd : c.decode b with
    | ok v => exact .inl ⟨v, t', by simp [hd], ho, hh, hl⟩
    | error e => exact .inr ⟨e, t', by simp [hd], ho, hh⟩
  · exact .inr ⟨_, t, by rw [Py.bind_apply, h], rfl, rfl⟩

/-- The `try` body of `receive_message` writes nothing and hands nothing on; a message other
    than `None` took at least the four bytes of a length. -/
theorem readFrame_spec (s : Host) :
    (∃ v s', readFrame env c s = .ret v s' ∧ s'.out = s.out ∧ s'.handled = s.handled ∧
      (isNone v = false → s'.stdin.length + 4 ≤ s.stdin.length)) ∨
    ∃ e s', readFrame env c s = .raise e s' ∧ s'.out = s.out ∧ s'.handled = s.handled := by
  by_cases h4 : 4 ≤ s.stdin.length
  · obtain ⟨n, hn⟩ := unpackU32_of_length env.order
      (by rw [List.length_take]; omega : (s.stdin.take 4).length = 4)
    rw [readFrame_of_header env c h4 hn]
    rcases readBody_spec env c n { s with stdin := s.stdin.drop 4 } with
      ⟨v, t', h, ho, hh, hl⟩ | ⟨e, t', h, ho, hh⟩
    · exact .inl ⟨v, t', h, ho, hh, fun _ => by simp at hl; omega⟩
    · exact .inr ⟨e, t', h, ho, hh⟩
  · have hlt := Nat.lt_of_not_le h4
    cases hi : env.interrupted
    · rw [readFrame_of_short env c hlt hi]
      by_cases h0 : s.stdin.length = 0
      · exact .inl ⟨_, { s with stdin := [] }, by rw [if_pos h0]; rfl, rfl, rfl,
          fun h => absurd h (by decide)⟩
      · exact .inr ⟨_, { s with stdin := [] },
          by rw [if_neg h0, Py.bind_apply, unpackU32_short _ hlt h0]; rfl, rfl, rfl⟩
    · exact .inr ⟨_, s, by rw [readFrame, Py.bind_apply, read_of_lt env hlt, hi]; rfl, rfl, rfl⟩

/-- Everything `receive_message` can do: it writes nothing but text and never touches the
    handled messages; a message other than `None` wrote nothing and took at least the four
    bytes of a length. -/
theorem receiveMessage_spec (s : Host) :
    (∃ v s', receiveMessage env c s = .ret v s' ∧ s'.handled = s.handled ∧
      (∃ new, s'.out = s.out ++ new ∧ binaryWrites new = []) ∧
      (isNone v = false → s'.out = s.out ∧ s'.stdin.length + 4 ≤ s.stdin.length)) ∨
    ∃ e s', receiveMessage env c s = .raise e s' ∧ s'.out = s.out ∧ s'.handled = s.handled := by
  rcases readFrame_spec env c s with ⟨v, s', h, ho, hh, hn⟩ | ⟨e, s', h, ho, hh⟩
  · exact .inl ⟨v, s', receiveMessage_of_ret env c h, hh, ⟨[], by simp [ho], rfl⟩,
      fun hv => ⟨ho, hn hv⟩⟩
  · by_cases he : e.isException
    · have hr : receiveMessage env c s =
          (print env ("Error receiving message: " ++ e.msg) >>= fun _ => pure Value.null) s' := by
        simp [receiveMessage, Py.tryCatch, h, he]
      rcases print_spec env ("Error receiving message: " ++ e.msg) s' with ⟨_, hp⟩ | hp
      · rw [Py.bind_of_ret hp] at hr
        exact .inl ⟨_, _, hr, hh, ⟨[.text ("Error receiving message: " ++ e.msg)], by simp [ho], rfl⟩,
          fun h => absurd h (by decide)⟩
      · rw [Py.bind_of_raise hp] at hr
        exact .inr ⟨_, _, hr, ho, hh⟩
    · exact .inr ⟨e, s', by simp [receiveMessage, Py.tryCatch, h, he], ho, hh⟩

-- ════════════════════════════════════════════════════════════════════════
-- The frames of the CPython codec read back
-- ════════════════════════════════════════════════════════════════════════

/-- The CPython codec decodes what it encodes: UTF-8 gives back the JSON text, and the JSON
    scanner the value, when the value nests within the levels both calls have left. -/
theorem Codec.python_decode_encode (d : Depths) {v : Value} (hv : Json.Exact v)
    (hd : Json.depth v ≤ d.dumps) (hl : Json.depth v ≤ d.loads) :
    (Codec.python d).encode v = .ok (Json.encodeUtf8 (Json.dumps v)) ∧
      (Codec.python d).decode (Json.encodeUtf8 (Json.dumps v)) = .ok v := by
  refine ⟨?_, ?_⟩
  · show Json.encodeUtf8 <$> Json.dumpsAt d.dumps v = _
    rw [Json.dumpsAt, Json.dumpsError_eq_none hv hd]
    rfl
  · show Json.decodeUtf8 (Json.encodeUtf8 (Json.dumps v)) >>= Json.loads d.loads = _
    rw [Json.decodeUtf8_encodeUtf8]
    exact Json.loads_dumps hv hl

/-- What `send_message` writes for a value, `receive_message` reads back as that value, from
    whatever state either side is in and whatever bytes follow the frame: for a value without a
    `float` or a repeated key, nesting within the levels both calls have left, whose encoding
    fits a length field, while the reader stays. -/
theorem receiveMessage_sendMessage (d : Depths) {v : Value} (hv : Json.Exact v)
    (hd : Json.depth v ≤ d.dumps) (hl : Json.depth v ≤ d.loads)
    (hfit : (Json.encodeUtf8 (Json.dumps v)).length < 2 ^ 32) (s t : Host)
    (hopen : env.readerGone s.out.length = false) (rest : List UInt8) :
    ∃ b, sendMessage env (Codec.python d) v s = .ret () { s with out := s.out ++ [.bytes b] } ∧
      receiveMessage env (Codec.python d) { t with stdin := b ++ rest } =
        .ret v { t with stdin := rest } :=
  have hc := Codec.python_decode_encode d hv hd hl
  ⟨_, sendMessage_apply env _ hc.1 hfit hopen, receiveMessage_frame env _ rfl hfit hc.2⟩

/-- A host whose reader stays, on a little-endian machine whose clock reads zero and whose
    input ends. -/
def quietEnv : Env where
  order := .little
  pid := 4242
  scriptPath := "/tmp/debug-native-host.py"
  cwd := "/tmp"
  clock := fun _ => 0
  interrupted := false
  readerGone := fun _ => false
  textFlush := fun _ => false

/-- The levels CPython's default recursion limit of 1000 leaves a few frames down. -/
def pythonDepths : Depths := ⟨990, 990, 990⟩

/-- A ping as the extension sends it. -/
def pingMessage : Value := .dict [("id", .int 1), ("action", .str "ping")]

theorem pingMessage_exact : Json.Exact pingMessage :=
  .dict (by decide) fun kv hkv => by
    simp only [pingMessage, List.mem_cons, List.mem_singleton, List.not_mem_nil, or_false] at hkv
    rcases hkv with rfl | rfl
    exacts [.int (by decide), .str "ping"]

/-- A ping through a frame and back. -/
theorem receiveMessage_sendMessage_ping :
    Json.Exact pingMessage ∧ Json.depth pingMessage ≤ pythonDepths.dumps ∧
    Json.depth pingMessage ≤ pythonDepths.loads ∧
    (Json.encodeUtf8 (Json.dumps pingMessage)).length < 2 ^ 32 ∧
    quietEnv.readerGone (Host.init []).out.length = false ∧
    ∃ b, sendMessage quietEnv (Codec.python pythonDepths) pingMessage (Host.init []) =
        .ret () { Host.init [] with out := (Host.init []).out ++ [.bytes b] } ∧
      receiveMessage quietEnv (Codec.python pythonDepths) { Host.init [] with stdin := b ++ [] } =
        .ret pingMessage { Host.init [] with stdin := [] } :=
  have hd : Json.depth pingMessage ≤ pythonDepths.dumps := by decide
  have hl : Json.depth pingMessage ≤ pythonDepths.loads := by decide
  have hfit : (Json.encodeUtf8 (Json.dumps pingMessage)).length < 2 ^ 32 := by decide
  ⟨pingMessage_exact, hd, hl, hfit, rfl,
    receiveMessage_sendMessage quietEnv pythonDepths pingMessage_exact hd hl hfit _ _ rfl []⟩

end Proxxy.NativeHost

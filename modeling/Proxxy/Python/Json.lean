import Proxxy.Python.Float

/-!
# `json`, UTF-8 and `str` on decoded values

The native-messaging host sends every message as `json.dumps(v).encode('utf-8')`, reads one
back with `json.loads(raw.decode('utf-8'))`, and prints values with `str(v)`. This file gives
the library calls as CPython computes them on the values of `Value`.

## Main definitions

- `Json.dumps`, `Json.dumpsIndent` — `json.dumps` with its default separators and
  `ensure_ascii`, and with `indent=2`; `Json.dumpsError` — the exception it raises instead.
- `Json.encodeUtf8`, `Json.decodeUtf8` — `str.encode('utf-8')` and `bytes.decode('utf-8')`,
  the latter with the message of `UnicodeDecodeError`.
- `Json.loads` — `json.loads` on a `str`, with the messages of `JSONDecodeError` as the C
  scanner words them.
- `Json.pyStr` — `str(v)`, as an f-string prints a value; `Json.formatError` — the exception
  the f-string raises instead.

## Design notes

Reading a number rounds it to the nearest double, ties to even, as `float(s)` does, and a
number beyond the double range reads as an infinity; the constants `NaN`, `Infinity` and
`-Infinity` read as floats too. A lone surrogate escape has no `Value`, since a Lean string
cannot hold a surrogate: `loads` refuses it where Python returns a string.

Both directions stop where CPython's C accelerators do. Each list and dict they enter takes
one level of the interpreter's recursion limit, shared with the Python frames already on the
stack, so a caller passes the levels still free at its call as `limit`; past them the call
raises `RecursionError`. An `int` of more than 4300 digits raises `ValueError` both ways.
`repr` takes a level for every value it writes, an item's as well as its container's, and
the f-string that prints a value takes one or two more on the way to it. The levels are
counted as CPython 3.11 counts them.

`str` escapes the non-printable characters of ASCII and Latin-1; CPython also escapes the
other characters its Unicode database marks non-printable.
-/

namespace Proxxy.Python.Json

-- ════════════════════════════════════════════════════════════════════════
-- json.dumps
-- ════════════════════════════════════════════════════════════════════════

/-- A lower-case hexadecimal digit. -/
def hexDigit (n : Nat) : Char := if n < 10 then Char.ofNat (48 + n) else Char.ofNat (87 + n)

/-- `format(n, "0kx")`, for `n < 16 ^ k`. -/
def hexPad (k n : Nat) : List Char :=
  ((List.range k).reverse.map fun i => hexDigit (n / 16 ^ i % 16))

/-- A backslash followed by `c`. -/
def escaped (c : Char) : List Char := [Char.ofNat 92, c]

/-- How `json.dumps` writes one character of a string with `ensure_ascii`. -/
def escapeJsonChar (c : Char) : List Char :=
  match c.toNat with
  | 92 => escaped (Char.ofNat 92)
  | 34 => escaped (Char.ofNat 34)
  | 8 => escaped 'b'
  | 12 => escaped 'f'
  | 10 => escaped 'n'
  | 13 => escaped 'r'
  | 9 => escaped 't'
  | n =>
    if 32 ≤ n ∧ n ≤ 126 then [c]
    else if n < 0x10000 then escaped 'u' ++ hexPad 4 n
    else escaped 'u' ++ hexPad 4 (0xd800 + (n - 0x10000) / 1024) ++
      escaped 'u' ++ hexPad 4 (0xdc00 + (n - 0x10000) % 1024)

/-- A string as `json.dumps` quotes it. -/
def quoteJson (s : String) : List Char :=
  Char.ofNat 34 :: (s.toList.flatMap escapeJsonChar ++ [Char.ofNat 34])

/-- `sep.join(parts)`. -/
def joinWith (sep : List Char) : List (List Char) → List Char
  | [] => []
  | [p] => p
  | p :: ps => p ++ sep ++ joinWith sep ps

/-- How `json.dumps` writes a float: `repr` for a finite one, and the constants JavaScript
    would print for the others. -/
def floatText : PyFloat → String
  | .fin x => floatRepr x
  | .inf neg => if neg then "-Infinity" else "Infinity"
  | .nan => "NaN"

/-- `json.dumps(v)`: separators `", "` and `": "`, every non-ASCII character escaped. -/
def dumpsChars : Value → List Char
  | .null => "null".toList
  | .bool b => (if b then "true" else "false").toList
  | .int i => (toString i).toList
  | .float x => (floatText x).toList
  | .str s => quoteJson s
  | .list xs => '[' :: (joinWith [',', ' '] (items xs) ++ [']'])
  | .dict kvs => '\x7b' :: (joinWith [',', ' '] (pairs kvs) ++ ['\x7d'])
where
  items : List Value → List (List Char)
    | [] => []
    | x :: xs => dumpsChars x :: items xs
  pairs : List (String × Value) → List (List Char)
    | [] => []
    | (k, v) :: kvs => (quoteJson k ++ [':', ' '] ++ dumpsChars v) :: pairs kvs

/-- `json.dumps(v)`. -/
def dumps (v : Value) : String := String.mk (dumpsChars v)

/-- A line break followed by the indentation of nesting level `level`, two spaces a level. -/
def newlineIndent (level : Nat) : List Char := '\n' :: List.replicate (2 * level) ' '

/-- `json.dumps(v, indent=2)` at nesting level `level`: each item of a non-empty list or dict
    on a line of its own, items separated by `","` and keys by `": "`. -/
def dumpsIndentChars : Nat → Value → List Char
  | _, .list [] => ['[', ']']
  | level, .list xs =>
    '[' :: newlineIndent (level + 1) ++
      joinWith (',' :: newlineIndent (level + 1)) (items (level + 1) xs) ++
      newlineIndent level ++ [']']
  | _, .dict [] => ['\x7b', '\x7d']
  | level, .dict kvs =>
    '\x7b' :: newlineIndent (level + 1) ++
      joinWith (',' :: newlineIndent (level + 1)) (pairs (level + 1) kvs) ++
      newlineIndent level ++ ['\x7d']
  | _, v => dumpsChars v
where
  items (level : Nat) : List Value → List (List Char)
    | [] => []
    | x :: xs => dumpsIndentChars level x :: items level xs
  pairs (level : Nat) : List (String × Value) → List (List Char)
    | [] => []
    | (k, v) :: kvs => (quoteJson k ++ [':', ' '] ++ dumpsIndentChars level v) :: pairs level kvs

/-- `json.dumps(v, indent=2)`. -/
def dumpsIndent (v : Value) : String := String.mk (dumpsIndentChars 0 v)

mutual
/-- How deep lists and dicts nest in `v`: the levels of the recursion limit that `json.dumps`
    and `json.loads` take for it. -/
def depth : Value → Nat
  | .list xs => depth.items xs + 1
  | .dict kvs => depth.pairs kvs + 1
  | _ => 0
  termination_by structural v => v

def depth.items : List Value → Nat
  | [] => 0
  | x :: xs => max (depth x) (depth.items xs)
  termination_by structural xs => xs

def depth.pairs : List (String × Value) → Nat
  | [] => 0
  | (_, v) :: kvs => max (depth v) (depth.pairs kvs)
  termination_by structural kvs => kvs
end

theorem depth_le_items {x : Value} : ∀ {xs : List Value}, x ∈ xs → depth x ≤ depth.items xs
  | _ :: _, .head _ => Nat.le_max_left _ _
  | _ :: _, .tail _ h => (depth_le_items h).trans (Nat.le_max_right _ _)

theorem depth_le_pairs {kv : String × Value} :
    ∀ {kvs : List (String × Value)}, kv ∈ kvs → depth kv.2 ≤ depth.pairs kvs
  | _ :: _, .head _ => Nat.le_max_left _ _
  | _ :: _, .tail _ h => (depth_le_pairs h).trans (Nat.le_max_right _ _)

/-- The most digits `int` and `str` convert between an `int` and its decimal text
    (`sys.get_int_max_str_digits()`). -/
def maxStrDigits : Nat := 4300

/-- The `ValueError` of `str(i)` for an `int` of more than `maxStrDigits` digits. -/
def intToStrError : PyExc :=
  ⟨.valueError, "Exceeds the limit (4300) for integer string conversion; " ++
    "use sys.set_int_max_str_digits() to increase the limit"⟩

/-- The `RecursionError` of a call that meets one level of nesting too many. -/
def recursionError (whilst : String) : PyExc :=
  ⟨.recursionError, "maximum recursion depth exceeded " ++ whilst⟩

/-- The `ValueError` of converting `i` to its decimal text, if it has more than 4300
    digits. -/
def intStrError (i : Int) : Option PyExc :=
  if maxStrDigits < (toString i.natAbs).length then some intToStrError else none

mutual
/-- The exception `json.dumps(v)` raises, if any, when `limit` levels of nesting are still
    free: `RecursionError` at the first list or dict past them, `ValueError` at the first
    `int` of more than 4300 digits, whichever the encoder meets first. -/
def dumpsError (limit : Nat) : Value → Option PyExc
  | .int i => intStrError i
  | .list xs =>
    match limit with
    | 0 => some (recursionError "while encoding a JSON object")
    | limit + 1 => dumpsError.items limit xs
  | .dict kvs =>
    match limit with
    | 0 => some (recursionError "while encoding a JSON object")
    | limit + 1 => dumpsError.pairs limit kvs
  | _ => none
  termination_by structural v => v

def dumpsError.items (limit : Nat) : List Value → Option PyExc
  | [] => none
  | x :: xs => (dumpsError limit x).orElse fun _ => dumpsError.items limit xs
  termination_by structural xs => xs

def dumpsError.pairs (limit : Nat) : List (String × Value) → Option PyExc
  | [] => none
  | (_, v) :: kvs => (dumpsError limit v).orElse fun _ => dumpsError.pairs limit kvs
  termination_by structural kvs => kvs
end

/-- `json.dumps(v)` with `limit` levels of nesting free. -/
def dumpsAt (limit : Nat) (v : Value) : Except PyExc String :=
  match dumpsError limit v with
  | some e => .error e
  | none => .ok (dumps v)

-- ════════════════════════════════════════════════════════════════════════
-- UTF-8
-- ════════════════════════════════════════════════════════════════════════

/-- `s.encode('utf-8')`. -/
def encodeUtf8 (s : String) : List UInt8 :=
  s.toList.flatMap fun c =>
    let n := c.toNat
    (if n < 0x80 then [n]
    else if n < 0x800 then [0xC0 + n / 64, 0x80 + n % 64]
    else if n < 0x10000 then [0xE0 + n / 4096, 0x80 + n / 64 % 64, 0x80 + n % 64]
    else [0xF0 + n / 262144, 0x80 + n / 4096 % 64, 0x80 + n / 64 % 64, 0x80 + n % 64]).map
      UInt8.ofNat

/-- The `UnicodeDecodeError` for the bytes `start` to `stop - 1` of `raw`. -/
def utf8Error (raw : List UInt8) (start stop : Nat) (reason : String) : PyExc :=
  ⟨.unicodeDecodeError, "'utf-8' codec can't decode " ++
    (if stop = start + 1 then
      "byte 0x" ++ String.mk (hexPad 2 (raw.getD start 0).toNat) ++ " in position " ++
        toString start
    else "bytes in position " ++ toString start ++ "-" ++ toString (stop - 1)) ++
    ": " ++ reason⟩

/-- What a lead byte starts: the continuation bytes owed and the range of the first of them
    (the others lie in `0x80..0xBF`); none for a byte no character starts with. -/
def utf8Lead (b : Nat) : Option (Nat × Nat × Nat) :=
  if b < 0x80 then some (0, 0, 0)
  else if b < 0xC2 then none
  else if b < 0xE0 then some (1, 0x80, 0xBF)
  else if b = 0xE0 then some (2, 0xA0, 0xBF)
  else if b = 0xED then some (2, 0x80, 0x9F)
  else if b < 0xF0 then some (2, 0x80, 0xBF)
  else if b = 0xF0 then some (3, 0x90, 0xBF)
  else if b < 0xF4 then some (3, 0x80, 0xBF)
  else if b = 0xF4 then some (3, 0x80, 0x8F)
  else none

/-- The code-point bits a lead byte that owes `need` continuation bytes carries. -/
def leadBits (b need : Nat) : Nat :=
  match need with
  | 0 => b
  | 1 => b % 32
  | 2 => b % 16
  | _ => b % 8

/-- CPython's UTF-8 decoder, a byte at a time: `need` continuation bytes are owed for the
    character that began at `start`, with code point `cp` so far, the next one in `lo..hi`. -/
def utf8Go (raw : List UInt8) : List UInt8 → (pos need cp start lo hi : Nat) → List Char →
    Except PyExc String
  | [], _, 0, _, _, _, _, acc => .ok (String.mk acc.reverse)
  | [], _, _ + 1, _, start, _, _, _ =>
    .error (utf8Error raw start raw.length "unexpected end of data")
  | b :: rest, pos, 0, _, _, _, _, acc =>
    match utf8Lead b.toNat with
    | none => .error (utf8Error raw pos (pos + 1) "invalid start byte")
    | some (0, _, _) => utf8Go raw rest (pos + 1) 0 0 0 0 0 (Char.ofNat b.toNat :: acc)
    | some (need, lo, hi) =>
      utf8Go raw rest (pos + 1) need (leadBits b.toNat need) pos lo hi acc
  | b :: rest, pos, need + 1, cp, start, lo, hi, acc =>
    if lo ≤ b.toNat ∧ b.toNat ≤ hi then
      let cp := cp * 64 + b.toNat % 64
      if need = 0 then utf8Go raw rest (pos + 1) 0 0 0 0 0 (Char.ofNat cp :: acc)
      else utf8Go raw rest (pos + 1) need cp start 0x80 0xBF acc
    else .error (utf8Error raw start pos "invalid continuation byte")

/-- `raw.decode('utf-8')`. -/
def decodeUtf8 (raw : List UInt8) : Except PyExc String := utf8Go raw raw 0 0 0 0 0 0 []

-- ════════════════════════════════════════════════════════════════════════
-- json.loads
-- ════════════════════════════════════════════════════════════════════════

/-- `JSONDecodeError(msg, doc, pos)`: the message with the line and column of `pos`. -/
def decodeError (doc : List Char) (msg : String) (pos : Nat) : PyExc :=
  let before := doc.take pos
  ⟨.jsonDecodeError, msg ++ ": line " ++ toString (before.count '\n' + 1) ++ " column " ++
    toString ((before.reverse.takeWhile (· ≠ '\n')).length + 1) ++ " (char " ++
    toString pos ++ ")"⟩

/-- A parser's result: the value, the text after it and its position. -/
abbrev Parsed (α : Type) := Except PyExc (α × List Char × Nat)

/-- JSON whitespace: space, tab, newline, carriage return. -/
def isWs (c : Char) : Bool := c = ' ' ∨ c = '\t' ∨ c = '\n' ∨ c = '\r'

/-- Skip whitespace. -/
def skipWs : List Char → Nat → List Char × Nat
  | c :: cs, pos => if isWs c then skipWs cs (pos + 1) else (c :: cs, pos)
  | [], pos => ([], pos)

/-- The value of a hexadecimal digit of either case. -/
def hexVal (c : Char) : Option Nat :=
  if '0' ≤ c ∧ c ≤ '9' then some (c.toNat - 48)
  else if 'a' ≤ c ∧ c ≤ 'f' then some (c.toNat - 87)
  else if 'A' ≤ c ∧ c ≤ 'F' then some (c.toNat - 55)
  else none

/-- Four hexadecimal digits. -/
def hex4Val : List Char → Option Nat
  | [a, b, c, d] => do
    let a ← hexVal a; let b ← hexVal b; let c ← hexVal c; let d ← hexVal d
    pure (((a * 16 + b) * 16 + c) * 16 + d)
  | _ => none

/-- The character a one-letter escape stands for. -/
def simpleEscape (c : Char) : Option Char :=
  match c.toNat with
  | 34 => some (Char.ofNat 34)
  | 92 => some (Char.ofNat 92)
  | 47 => some '/'
  | 98 => some (Char.ofNat 8)
  | 102 => some (Char.ofNat 12)
  | 110 => some '\n'
  | 114 => some '\r'
  | 116 => some '\t'
  | _ => none

/-- The body of a string after its opening quote at `begin`, up to and past the closing
    quote (`scanstring`, strict). The text is the document from `pos` on, so a `\u` escape
    has a character after its four digits exactly when the document has one. -/
def scanString (doc : List Char) (begin : Nat) : List Char → Nat → List Char → Parsed String
  | [], _, _ => .error (decodeError doc "Unterminated string starting at" begin)
  | c :: cs, pos, acc =>
    if c.toNat = 34 then .ok (String.mk acc.reverse, cs, pos + 1)
    else if c.toNat = 92 then
      match cs with
      | [] => .error (decodeError doc "Unterminated string starting at" begin)
      | 'u' :: h₁ :: h₂ :: h₃ :: h₄ :: after =>
        match hex4Val [h₁, h₂, h₃, h₄] with
        | none => .error (decodeError doc "Invalid \\uXXXX escape" (pos + 1))
        | some u =>
          if after.isEmpty then .error (decodeError doc "Invalid \\uXXXX escape" (pos + 1))
          else if u < 0xd800 ∨ 0xdfff < u then
            scanString doc begin after (pos + 6) (Char.ofNat u :: acc)
          else match after with
            | b :: 'u' :: l₁ :: l₂ :: l₃ :: l₄ :: after' =>
              match hex4Val [l₁, l₂, l₃, l₄] with
              | none =>
                if b.toNat = 92 ∧ after' ≠ [] then
                  .error (decodeError doc "Invalid \\uXXXX escape" (pos + 7))
                else .error (decodeError doc "Invalid \\uXXXX escape" (pos + 1))
              | some l =>
                if b.toNat = 92 ∧ after' ≠ [] ∧ u ≤ 0xdbff ∧ 0xdc00 ≤ l ∧ l ≤ 0xdfff then
                  scanString doc begin after' (pos + 12)
                    (Char.ofNat (0x10000 + (u - 0xd800) * 1024 + (l - 0xdc00)) :: acc)
                else .error (decodeError doc "Invalid \\uXXXX escape" (pos + 1))
            | _ => .error (decodeError doc "Invalid \\uXXXX escape" (pos + 1))
      | 'u' :: _ => .error (decodeError doc "Invalid \\uXXXX escape" (pos + 1))
      | e :: cs' =>
        match simpleEscape e with
        | some d => scanString doc begin cs' (pos + 2) (d :: acc)
        | none => .error (decodeError doc "Invalid \\escape" pos)
    else if c.toNat < 32 then .error (decodeError doc "Invalid control character at" pos)
    else scanString doc begin cs (pos + 1) (c :: acc)

/-- The leading ASCII digits. -/
def digitsPrefix (cs : List Char) : List Char := cs.takeWhile Char.isDigit

/-- The `ValueError` of `int(s)` for a text of `n` digits, more than `maxStrDigits`. -/
def intFromStrError (n : Nat) : PyExc :=
  ⟨.valueError, "Exceeds the limit (4300) for integer string conversion: value has " ++
    toString n ++ " digits; use sys.set_int_max_str_digits() to increase the limit"⟩

/-- The number at the head of the text (`_match_number_unicode`): an `int`, or the double
    nearest to it when it has a fraction or an exponent, an infinity past the largest. -/
def scanNumber (doc : List Char) (cs : List Char) (pos : Nat) : Parsed Value :=
  let (neg, body) := match cs with
    | '-' :: more => (true, more)
    | _ => (false, cs)
  let intPart := match body with
    | '0' :: _ => ['0']
    | c :: _ => if '1' ≤ c ∧ c ≤ '9' then digitsPrefix body else []
    | [] => []
  if intPart = [] then .error (decodeError doc "Expecting value" pos) else
    let rest := body.drop intPart.length
    let frac := match rest with
      | '.' :: more => if (digitsPrefix more).isEmpty then [] else digitsPrefix more
      | _ => []
    let rest := if frac.isEmpty then rest else rest.drop (frac.length + 1)
    let (expNeg, expDigits, expLen) : Bool × List Char × Nat := match rest with
      | e :: more =>
        if e = 'e' ∨ e = 'E' then
          let (sn, sl, more) := match more with
            | '-' :: m => (true, 1, m)
            | '+' :: m => (false, 1, m)
            | m => (false, 0, m)
          let ds := digitsPrefix more
          if ds.isEmpty then (false, [], 0) else (sn, ds, 1 + sl + ds.length)
        else (false, [], 0)
      | [] => (false, [], 0)
    let len := (if neg then 1 else 0) + intPart.length +
      (if frac.isEmpty then 0 else frac.length + 1) + expLen
    let digitsVal (ds : List Char) : Nat := ds.foldl (fun n d => n * 10 + (d.toNat - 48)) 0
    let mant : Int := (if neg then -1 else 1) * (digitsVal (intPart ++ frac) : Int)
    if frac.isEmpty ∧ expLen = 0 then
      if maxStrDigits < intPart.length then .error (intFromStrError intPart.length)
      else .ok (.int mant, cs.drop len, pos + len)
    else
      let e : Int := (if expNeg then -1 else 1) * (digitsVal expDigits : Int) - frac.length
      match nearestDouble (mant * tenPow e) with
      | some x => .ok (.float (.fin x), cs.drop len, pos + len)
      | none => .ok (.float (.inf neg), cs.drop len, pos + len)

/-- Whether the text starts with the word `w`. -/
def startsWith (cs : List Char) (w : String) : Bool := w.toList.isPrefixOf cs

/-- The items of an array after its `[`, with `value` reading one item
    (`_parse_array_unicode`). -/
def arrayItems (doc : List Char) (value : List Char → Nat → Parsed Value) :
    Nat → List Char → Nat → List Value → Parsed Value
  | 0, _, pos, _ => .error (decodeError doc "Expecting value" pos)
  | fuel + 1, cs, pos, acc =>
    match value cs pos with
    | .error e => .error e
    | .ok (v, cs, pos) =>
      match skipWs cs pos with
      | (']' :: cs, pos) => .ok (.list (v :: acc).reverse, cs, pos + 1)
      | (',' :: cs, pos) =>
        let (cs, pos) := skipWs cs (pos + 1)
        arrayItems doc value fuel cs pos (v :: acc)
      | (_, pos) => .error (decodeError doc "Expecting ',' delimiter" pos)

/-- The members of an object after its opening brace, with `value` reading one value
    (`_parse_object_unicode`); a repeated key keeps its first place and takes the last
    value. -/
def objectItems (doc : List Char) (value : List Char → Nat → Parsed Value) :
    Nat → List Char → Nat → List (String × Value) → Parsed Value
  | 0, _, pos, _ => .error (decodeError doc "Expecting value" pos)
  | fuel + 1, cs, pos, acc =>
    match cs with
    | q :: cs =>
      if q.toNat ≠ 34 then
        .error (decodeError doc "Expecting property name enclosed in double quotes" pos)
      else match scanString doc pos cs (pos + 1) [] with
        | .error e => .error e
        | .ok (k, cs, pos) =>
          match skipWs cs pos with
          | (':' :: cs, pos) =>
            let (cs, pos) := skipWs cs (pos + 1)
            match value cs pos with
            | .error e => .error e
            | .ok (v, cs, pos) =>
              let acc := setItems acc k v
              match skipWs cs pos with
              | ('\x7d' :: cs, pos) => .ok (.dict acc, cs, pos + 1)
              | (',' :: cs, pos) =>
                let (cs, pos) := skipWs cs (pos + 1)
                objectItems doc value fuel cs pos acc
              | (_, pos) => .error (decodeError doc "Expecting ',' delimiter" pos)
          | (_, pos) => .error (decodeError doc "Expecting ':' delimiter" pos)
    | [] => .error (decodeError doc "Expecting property name enclosed in double quotes" pos)

/-- A value other than a list or a dict at the head of the text: the cases of
    `scan_once_unicode` for a string, the named constants and a number. -/
def scanScalar (doc : List Char) : List Char → Nat → Parsed Value
  | [], pos => .error (decodeError doc "Expecting value" pos)
  | c :: more, pos =>
    if c.toNat = 34 then
      (scanString doc pos more (pos + 1) []).map fun (s, r) => (.str s, r)
    else if startsWith (c :: more) "null" then .ok (.null, (c :: more).drop 4, pos + 4)
    else if startsWith (c :: more) "true" then .ok (.bool true, (c :: more).drop 4, pos + 4)
    else if startsWith (c :: more) "false" then .ok (.bool false, (c :: more).drop 5, pos + 5)
    else if startsWith (c :: more) "NaN" then .ok (.float .nan, (c :: more).drop 3, pos + 3)
    else if startsWith (c :: more) "Infinity" then
      .ok (.float (.inf false), (c :: more).drop 8, pos + 8)
    else if startsWith (c :: more) "-Infinity" then
      .ok (.float (.inf true), (c :: more).drop 9, pos + 9)
    else scanNumber doc (c :: more) pos

/-- One JSON value at the head of the text (`scan_once_unicode`), with `limit` levels of
    nesting free: each list and dict takes one, and raises `RecursionError` when none is. -/
def scanValue (doc : List Char) : Nat → List Char → Nat → Parsed Value
  | 0, c :: more, pos =>
    if c = '[' then .error (recursionError "while decoding a JSON array from a unicode string")
    else if c = '\x7b' then
      .error (recursionError "while decoding a JSON object from a unicode string")
    else scanScalar doc (c :: more) pos
  | limit + 1, c :: more, pos =>
    if c = '[' then
      let (cs, p) := skipWs more (pos + 1)
      match cs with
      | ']' :: cs => .ok (.list [], cs, p + 1)
      | _ => arrayItems doc (scanValue doc limit) (cs.length + 1) cs p []
    else if c = '\x7b' then
      let (cs, p) := skipWs more (pos + 1)
      match cs with
      | '\x7d' :: cs => .ok (.dict [], cs, p + 1)
      | _ => objectItems doc (scanValue doc limit) (cs.length + 1) cs p []
    else scanScalar doc (c :: more) pos
  | _, [], pos => scanScalar doc [] pos

/-- Whatever the levels free, a value that starts as no list or dict is read as a scalar. -/
theorem scanValue_scalar {c : Char} (h₁ : c ≠ '[') (h₂ : c ≠ '\x7b') (doc more : List Char)
    (limit pos : Nat) : scanValue doc limit (c :: more) pos = scanScalar doc (c :: more) pos := by
  cases limit <;> simp [scanValue, h₁, h₂]

/-- `json.loads(s)` for a `str`, with `limit` levels of nesting free. -/
def loads (limit : Nat) (s : String) : Except PyExc Value :=
  let doc := s.toList
  if doc.head? = some (Char.ofNat 0xfeff) then
    .error (decodeError doc "Unexpected UTF-8 BOM (decode using utf-8-sig)" 0)
  else
    let (cs, pos) := skipWs doc 0
    match scanValue doc limit cs pos with
    | .error e => .error e
    | .ok (v, cs, pos) =>
      let (cs, pos) := skipWs cs pos
      if cs.isEmpty then .ok v else .error (decodeError doc "Extra data" pos)
-- ════════════════════════════════════════════════════════════════════════
-- str
-- ════════════════════════════════════════════════════════════════════════

/-- How `repr` writes one character of a string quoted with `quote`. -/
def reprChar (quote c : Char) : List Char :=
  let n := c.toNat
  if c = quote ∨ n = 92 then escaped c
  else if n = 9 then escaped 't'
  else if n = 10 then escaped 'n'
  else if n = 13 then escaped 'r'
  else if n < 32 ∨ n = 127 ∨ (128 ≤ n ∧ n ≤ 160) ∨ n = 173 then escaped 'x' ++ hexPad 2 n
  else [c]

/-- `repr(s)`: single quotes, unless the string holds a single quote and no double one. -/
def reprStr (s : String) : List Char :=
  let quote := if s.contains (Char.ofNat 39) ∧ ¬ s.contains (Char.ofNat 34) then Char.ofNat 34
    else Char.ofNat 39
  quote :: (s.toList.flatMap (reprChar quote) ++ [quote])

/-- `repr(v)`. -/
def reprChars : Value → List Char
  | .null => "None".toList
  | .bool b => (if b then "True" else "False").toList
  | .int i => (toString i).toList
  | .float x => x.repr.toList
  | .str s => reprStr s
  | .list xs => '[' :: (joinWith [',', ' '] (items xs) ++ [']'])
  | .dict kvs => '\x7b' :: (joinWith [',', ' '] (pairs kvs) ++ ['\x7d'])
where
  items : List Value → List (List Char)
    | [] => []
    | x :: xs => reprChars x :: items xs
  pairs : List (String × Value) → List (List Char)
    | [] => []
    | (k, v) :: kvs => (reprStr k ++ [':', ' '] ++ reprChars v) :: pairs kvs

/-- `str(v)`, as `f"{v}"` prints it: a string as it is, anything else as its `repr`. -/
def pyStr : Value → String
  | .str s => s
  | v => String.mk (reprChars v)

/-- The `RecursionError` of `repr` past the recursion limit. -/
def reprDepthError : PyExc := recursionError "while getting the repr of an object"

mutual
/-- The exception `repr(v)` raises, if any, when `limit` levels of recursion are still free:
    every `repr` of a value takes one, an item's as well as its container's. -/
def reprError (limit : Nat) : Value → Option PyExc
  | .int i =>
    match limit with
    | 0 => some reprDepthError
    | _ + 1 => intStrError i
  | .list xs =>
    match limit with
    | 0 => some reprDepthError
    | limit + 1 => reprError.items limit xs
  | .dict kvs =>
    match limit with
    | 0 => some reprDepthError
    | limit + 1 => reprError.pairs limit kvs
  | _ =>
    match limit with
    | 0 => some reprDepthError
    | _ + 1 => none
  termination_by structural v => v

def reprError.items (limit : Nat) : List Value → Option PyExc
  | [] => none
  | x :: xs => (reprError limit x).orElse fun _ => reprError.items limit xs
  termination_by structural xs => xs

/-- The items of a dict: the `repr` of a key takes a level as its value's does. -/
def reprError.pairs (limit : Nat) : List (String × Value) → Option PyExc
  | [] => none
  | (_, v) :: kvs =>
    ((if limit = 0 then some reprDepthError else none).orElse fun _ => reprError limit v).orElse
      fun _ => reprError.pairs limit kvs
  termination_by structural kvs => kvs
end

/-- The exception `str(v)` raises, if any, with `limit` levels of recursion free: a string is
    its own `str`; any other value takes a level, and a list or a dict then takes the `repr` of
    each item. -/
def strError (limit : Nat) : Value → Option PyExc
  | .str _ => none
  | v =>
    match limit, v with
    | 0, _ => some (recursionError "while getting the str of an object")
    | _ + 1, .int i => intStrError i
    | limit + 1, .list xs => reprError.items limit xs
    | limit + 1, .dict kvs => reprError.pairs limit kvs
    | _ + 1, _ => none

/-- The exception `f"{v}"` raises, if any, with `limit` levels of recursion free: a string and
    an `int` go straight to `str`; any other value through the call of its `__format__`
    method, which takes a level first. -/
def formatError (limit : Nat) : Value → Option PyExc
  | .str _ => none
  | .int i => strError limit (.int i)
  | v =>
    match limit with
    | 0 => some (recursionError "while calling a Python object")
    | limit + 1 => strError limit v

/-- `f"{v}"` with `limit` levels of recursion free. -/
def formatAt (limit : Nat) (v : Value) : Except PyExc String :=
  match formatError limit v with
  | some e => .error e
  | none => .ok (pyStr v)

end Proxxy.Python.Json

import Mathlib.Data.Rat.Defs
import Mathlib.Data.List.Infix
import Mathlib.Data.List.Nodup
import Mathlib.Algebra.Group.Nat.Basic

/-!
# Python objects decoded from JSON

The scripts read every answer of the system under test (GraphQL replies, the admin metrics,
native-messaging frames) through `json.loads`, and then work on the result with `in`, `[]`,
`.get`, `len`, `-`, `<` and `for`. This file models the objects `json.loads` builds and
those operators, with the exception Python raises when an operand has the wrong type.

## Main definitions

- `PyExc` — a raised exception: its class and `str(e)`.
- `Value` — `None`, `bool`, `int`, `float`, `str`, `list` and `dict`.
- `Value.contains`, `Value.getItem`, `Value.get`, `Value.len`, `Value.iter` — `k in v`,
  `v[k]`, `v.get(k, d)`, `len(v)` and what `for x in v` runs over.
- `Value.cmp` — `v < n` and `v <= n` against a number literal.
- `PyDict` — a `dict` the scripts build themselves, its keys unique by construction.

## Design notes

A `float` is a finite double, kept as its exact rational value, an infinity or NaN, which
`json.loads` reads from `Infinity`, `-Infinity`, `NaN` and numbers beyond the double range.
The scripts only subtract floats and compare them, and the sign of a rounded difference is
the sign of the exact one. The sign of a zero is not kept: `-0.0` is `0.0`. A decoded `dict`
keeps its items in insertion order and is looked up at the first occurrence of a key;
`json.loads` never builds one with a repeated key.
-/

namespace Proxxy.Python

/-- The exception classes the scripts raise, catch or let escape. `requestException`
    stands for `requests.exceptions.RequestException` and its subclasses. -/
inductive ExcClass where
  | typeError | attributeError | keyError | structError | unicodeDecodeError
  | jsonDecodeError | requestException | timeoutExpired | eofError | osError
  | valueError | overflowError | indexError | recursionError | brokenPipeError
  | keyboardInterrupt
  | systemExit (code : Nat)
  deriving DecidableEq, Repr

/-- A raised exception: its class and its message `str(e)`. -/
structure PyExc where
  cls : ExcClass
  msg : String
  deriving DecidableEq, Repr

namespace PyExc

/-- `except Exception:` catches it: everything but `KeyboardInterrupt` and `SystemExit`. -/
def isException (e : PyExc) : Bool :=
  match e.cls with
  | .keyboardInterrupt | .systemExit _ => false
  | _ => true

end PyExc

/-- A Python `float`: a finite double as its exact rational value, an infinity, or NaN. -/
inductive PyFloat where
  | fin (x : ℚ)
  | inf (neg : Bool)
  | nan
  deriving DecidableEq, Repr

/-- `bool(x)` of a float: only zero is false. -/
def PyFloat.truthy : PyFloat → Bool
  | .fin x => x != 0
  | _ => true

/-- A Python object as `json.loads` builds it. -/
inductive Value where
  | null
  | bool (b : Bool)
  | int (i : Int)
  | float (x : PyFloat)
  | str (s : String)
  | list (xs : List Value)
  | dict (kvs : List (String × Value))
  deriving Repr, Inhabited

namespace Value

/-- The value at the first occurrence of key `k` among a dict's items. -/
def lookup : List (String × Value) → String → Option Value
  | [], _ => none
  | (k', v) :: kvs, k => if k' = k then some v else lookup kvs k

/-- `type(v).__name__`, as Python's error messages print it. -/
def typeName : Value → String
  | .null => "NoneType"
  | .bool _ => "bool"
  | .int _ => "int"
  | .float _ => "float"
  | .str _ => "str"
  | .list _ => "list"
  | .dict _ => "dict"

/-- `bool(v)`: the test behind `if v` and `not v`. -/
def truthy : Value → Bool
  | .null => false
  | .bool b => b
  | .int i => i != 0
  | .float x => x.truthy
  | .str s => !s.isEmpty
  | .list xs => !xs.isEmpty
  | .dict kvs => !kvs.isEmpty

/-- `v == s` for a string `s`: only the string `s` itself is equal to it. -/
def eqStr : Value → String → Bool
  | .str t, s => t == s
  | _, _ => false

/-- `sub in s` for two strings: `sub` occurs in `s`. -/
def strIn (sub s : String) : Bool := decide (sub.toList <:+: s.toList)

/-- `k in v` for a string `k`: a key of a dict, an element of a list, a substring of a
    string. Any other operand raises `TypeError`. -/
def contains (v : Value) (k : String) : Except PyExc Bool :=
  match v with
  | .dict kvs => .ok (kvs.any (·.1 == k))
  | .list xs => .ok (xs.any (eqStr · k))
  | .str s => .ok (strIn k s)
  | v => .error ⟨.typeError, "argument of type '" ++ v.typeName ++ "' is not iterable"⟩

/-- `v[k]` for a string key `k`. -/
def getItem (v : Value) (k : String) : Except PyExc Value :=
  match v with
  | .dict kvs =>
    match lookup kvs k with
    | some x => .ok x
    | none => .error ⟨.keyError, "'" ++ k ++ "'"⟩
  | .list _ => .error ⟨.typeError, "list indices must be integers or slices, not str"⟩
  | .str _ => .error ⟨.typeError, "string indices must be integers, not 'str'"⟩
  | v => .error ⟨.typeError, "'" ++ v.typeName ++ "' object is not subscriptable"⟩

/-- `v.get(k, default)`: only a dict has the method. -/
def get (v : Value) (k : String) (default : Value) : Except PyExc Value :=
  match v with
  | .dict kvs => .ok ((lookup kvs k).getD default)
  | v => .error ⟨.attributeError, "'" ++ v.typeName ++ "' object has no attribute 'get'"⟩

/-- `v[i]` for an `int` index `i`. A decoded dict has only string keys. -/
def getIndex (v : Value) (i : Nat) : Except PyExc Value :=
  match v with
  | .list xs =>
    match xs.get? i with
    | some x => .ok x
    | none => .error ⟨.indexError, "list index out of range"⟩
  | .str s =>
    match s.toList.get? i with
    | some c => .ok (.str (String.singleton c))
    | none => .error ⟨.indexError, "string index out of range"⟩
  | .dict _ => .error ⟨.keyError, toString i⟩
  | v => .error ⟨.typeError, "'" ++ v.typeName ++ "' object is not subscriptable"⟩

/-- `v[:n]`. A `dict` refuses the slice as a key (Python 3.11 and before). -/
def sliceTo (v : Value) (n : Nat) : Except PyExc Value :=
  match v with
  | .list xs => .ok (.list (xs.take n))
  | .str s => .ok (.str (String.mk (s.toList.take n)))
  | .dict _ => .error ⟨.typeError, "unhashable type: 'slice'"⟩
  | v => .error ⟨.typeError, "'" ++ v.typeName ++ "' object is not subscriptable"⟩

/-- `c.isspace()`: the characters `str.strip()` removes. -/
def isSpace (c : Char) : Bool :=
  let n := c.toNat
  (9 ≤ n ∧ n ≤ 13) ∨ (28 ≤ n ∧ n ≤ 32) ∨ n = 0x85 ∨ n = 0xA0 ∨ n = 0x1680 ∨
    (0x2000 ≤ n ∧ n ≤ 0x200A) ∨ n = 0x2028 ∨ n = 0x2029 ∨ n = 0x202F ∨ n = 0x205F ∨
    n = 0x3000

/-- `s.strip()` on a string. -/
def stripChars (s : List Char) : List Char :=
  ((s.dropWhile isSpace).reverse.dropWhile isSpace).reverse

/-- `v.strip()`: only a string has the method. -/
def strip (v : Value) : Except PyExc String :=
  match v with
  | .str s => .ok (String.mk (stripChars s.toList))
  | v => .error ⟨.attributeError, "'" ++ v.typeName ++ "' object has no attribute 'strip'"⟩

/-- `len(v)`: characters of a string, elements of a list, keys of a dict. -/
def len : Value → Except PyExc Nat
  | .str s => .ok s.length
  | .list xs => .ok xs.length
  | .dict kvs => .ok kvs.length
  | v => .error ⟨.typeError, "object of type '" ++ v.typeName ++ "' has no len()"⟩

/-- What `for x in v` runs over: a list's elements, a dict's keys, a string's characters. -/
def iter : Value → Except PyExc (List Value)
  | .list xs => .ok xs
  | .dict kvs => .ok (kvs.map fun kv => .str kv.1)
  | .str s => .ok (s.toList.map fun c => .str (String.singleton c))
  | v => .error ⟨.typeError, "'" ++ v.typeName ++ "' object is not iterable"⟩

/-- The rational a `bool`, an `int` or a finite `float` stands for. -/
def num? : Value → Option ℚ
  | .bool b => some (if b then 1 else 0)
  | .int i => some i
  | .float (.fin x) => some x
  | _ => none

/-- The integer a `bool` or `int` stands for. -/
def int? : Value → Option Int
  | .bool b => some (if b then 1 else 0)
  | .int i => some i
  | _ => none

/-- `v < n` and `v <= n` against a number literal, with `strict` choosing the first. Minus
    infinity is below every number and infinity above; NaN compares false. -/
def cmp (strict : Bool) (v : Value) (n : ℚ) : Except PyExc Bool :=
  match v with
  | .float (.inf neg) => .ok neg
  | .float .nan => .ok false
  | v =>
    match v.num? with
    | some x => .ok (if strict then decide (x < n) else decide (x ≤ n))
    | none => .error ⟨.typeError, "'" ++ (if strict then "<" else "<=") ++
        "' not supported between instances of '" ++ v.typeName ++ "' and 'int'"⟩

@[simp] theorem lookup_nil (k : String) : lookup [] k = none := rfl

@[simp] theorem lookup_cons (k' k : String) (v : Value) (kvs : List (String × Value)) :
    lookup ((k', v) :: kvs) k = if k' = k then some v else lookup kvs k := rfl

@[simp] theorem contains_dict (kvs : List (String × Value)) (k : String) :
    contains (.dict kvs) k = .ok (kvs.any (·.1 == k)) := rfl

@[simp] theorem getItem_dict (kvs : List (String × Value)) (k : String) :
    getItem (.dict kvs) k = match lookup kvs k with
      | some x => .ok x
      | none => .error ⟨.keyError, "'" ++ k ++ "'"⟩ := rfl

@[simp] theorem get_dict (kvs : List (String × Value)) (k : String) (d : Value) :
    get (.dict kvs) k d = .ok ((lookup kvs k).getD d) := rfl

@[simp] theorem strip_str (s : String) : strip (str s) = .ok (String.mk (stripChars s.toList)) :=
  rfl

theorem contains_error {v : Value} {k : String} {e : PyExc} (h : v.contains k = .error e) :
    e.isException = true := by
  cases v <;> simp only [contains, Except.error.injEq, reduceCtorEq] at h <;> rw [← h] <;> rfl

theorem getItem_error {v : Value} {k : String} {e : PyExc} (h : v.getItem k = .error e) :
    e.isException = true := by
  cases v <;> simp only [getItem, Except.error.injEq, reduceCtorEq] at h <;> try (rw [← h]; rfl)
  split at h <;> simp only [Except.error.injEq, reduceCtorEq] at h
  rw [← h]; rfl

theorem get_error {v : Value} {k : String} {d : Value} {e : PyExc}
    (h : v.get k d = .error e) : e.isException = true := by
  cases v <;> simp only [get, Except.error.injEq, reduceCtorEq] at h <;> rw [← h] <;> rfl

theorem iter_error {v : Value} {e : PyExc} (h : v.iter = .error e) : e.isException = true := by
  cases v <;> simp only [iter, Except.error.injEq, reduceCtorEq] at h <;> rw [← h] <;> rfl

theorem contains_eq_ok_of_lookup (kvs : List (String × Value)) (k : String) :
    contains (.dict kvs) k = .ok (lookup kvs k).isSome := by
  rw [contains_dict]
  congr 1
  induction kvs with
  | nil => rfl
  | cons kv kvs ih =>
    obtain ⟨k', v⟩ := kv
    by_cases h : k' = k <;> simp [h, ih]

end Value

-- ════════════════════════════════════════════════════════════════════════
-- Dicts the scripts build
-- ════════════════════════════════════════════════════════════════════════

/-- `d[k] = v` on a dict's items: a present key keeps its place and takes the new value,
    a new key goes last. -/
def setItems : List (String × Value) → String → Value → List (String × Value)
  | [], k, v => [(k, v)]
  | (k', v') :: kvs, k, v => if k' = k then (k, v) :: kvs else (k', v') :: setItems kvs k v

theorem setItems_keys (kvs : List (String × Value)) (k : String) (v : Value) :
    (setItems kvs k v).map Prod.fst =
      if k ∈ kvs.map Prod.fst then kvs.map Prod.fst else kvs.map Prod.fst ++ [k] := by
  induction kvs with
  | nil => simp [setItems]
  | cons kv kvs ih =>
    obtain ⟨k', v'⟩ := kv
    by_cases h : k' = k
    · subst h; simp [setItems]
    · simp only [setItems, h, if_false, List.map_cons, ih, List.mem_cons]
      by_cases hk : k ∈ kvs.map Prod.fst <;> simp [hk, Ne.symm h]

/-- Setting a key the dict does not hold appends it. -/
theorem setItems_of_not_mem {kvs : List (String × Value)} {k : String} (v : Value)
    (h : k ∉ kvs.map Prod.fst) : setItems kvs k v = kvs ++ [(k, v)] := by
  induction kvs with
  | nil => rfl
  | cons kv kvs ih =>
    simp only [List.map_cons, List.mem_cons, not_or] at h
    simp [setItems, Ne.symm h.1, ih h.2]

theorem lookup_setItems (kvs : List (String × Value)) (k j : String) (v : Value) :
    Value.lookup (setItems kvs k v) j = if k = j then some v else Value.lookup kvs j := by
  induction kvs with
  | nil => simp [setItems]
  | cons kv kvs ih =>
    obtain ⟨k', v'⟩ := kv
    by_cases h : k' = k
    · subst h; by_cases hj : k' = j <;> simp [setItems, hj]
    · by_cases hj : k' = j
      · subst hj; simp [setItems, h, Ne.symm h]
      · simp [setItems, h, hj, ih]

/-- `d.update(new)` on the items of two dicts of strings: a present key keeps its place and
    takes the new value, a new key goes last. -/
def updateItems : List (String × String) → List (String × String) → List (String × String)
  | d, [] => d
  | d, (k, v) :: more =>
    updateItems (if d.any (·.1 == k) then d.map fun kv => if kv.1 = k then (k, v) else kv
      else d ++ [(k, v)]) more

/-- A `dict` built by the scripts themselves: its keys are unique. -/
structure PyDict where
  items : List (String × Value)
  nodup : (items.map Prod.fst).Nodup

namespace PyDict

/-- `{}`. -/
def empty : PyDict := ⟨[], List.nodup_nil⟩

/-- `d[k] = v`. -/
def set (d : PyDict) (k : String) (v : Value) : PyDict where
  items := setItems d.items k v
  nodup := by
    rw [setItems_keys]
    split
    · exact d.nodup
    · rename_i hk
      exact List.nodup_append.2 ⟨d.nodup, List.nodup_singleton k, fun x hx hy => by
        rw [List.mem_singleton] at hy; exact hk (hy ▸ hx)⟩

/-- `d.get(k)`. -/
def find? (d : PyDict) (k : String) : Option Value := Value.lookup d.items k

/-- `k in d`. -/
def mem (d : PyDict) (k : String) : Bool := (d.find? k).isSome

@[simp] theorem find?_empty (k : String) : empty.find? k = none := rfl

@[simp] theorem find?_set (d : PyDict) (k j : String) (v : Value) :
    (d.set k v).find? j = if k = j then some v else d.find? j :=
  lookup_setItems d.items k j v

end PyDict

end Proxxy.Python

import Proxxy.Python.Value

/-!
# Doubles: rounding, `repr`, arithmetic and fixed-point formatting

A finite `float` is kept as the exact rational value of its double (see `Value`). This file
gives what CPython computes on floats: the double nearest to an exact result, `repr(x)`,
`a - b` with Python's choice between `int` and `float` arithmetic and IEEE's rules for
infinities and NaN, and the `.Nf` format spec of an f-string.

## Main definitions

- `nearestDouble` — the double nearest to a rational, ties to even, or none past the largest.
- `floatRepr`, `PyFloat.repr` — `repr` of a float: for a finite one the shortest decimal
  that reads back as it.
- `PyNum`, `Value.sub`, `PyNum.le`, `PyNum.str` — the result of `a - b`, how it compares
  with a number and how `str` prints it.
- `formatFixed` — `format(v, ".Nf")`.

## Design notes

A `float` result of arithmetic is kept as the exact value of the operation before rounding.
The double it rounds to has the same sign, or is infinite with that sign when it overflows,
so comparisons against zero read the exact value, and `PyNum.str` rounds when printing.
-/

namespace Proxxy.Python


/-- `2 ^ k` for an integer `k`. -/
def twoPow (k : Int) : ℚ := if 0 ≤ k then (2 ^ k.toNat : ℕ) else 1 / (2 ^ (-k).toNat : ℕ)

/-- `10 ^ k` for an integer `k`. -/
def tenPow (k : Int) : ℚ := if 0 ≤ k then (10 ^ k.toNat : ℕ) else 1 / (10 ^ (-k).toNat : ℕ)

/-- `⌊log₂ (a / b)⌋` for positive `a` and `b`. -/
def log2Floor (a b : Nat) : Int :=
  let k : Int := (a.log2 : Int) - b.log2
  if (a : ℚ) / b < twoPow k then k - 1 else k

/-- `⌊log₁₀ (a / b)⌋` for positive `a` and `b`. -/
def log10Floor (a b : Nat) : Int :=
  let k : Int := ((toString a).length : Int) - (toString b).length
  if (a : ℚ) / b < tenPow k then k - 1 else k

/-- `n / d` rounded to the nearest integer, ties to even. -/
def roundDiv (n d : Nat) : Nat :=
  let q := n / d
  let r := n % d
  if 2 * r < d then q else if d < 2 * r then q + 1 else if q % 2 = 0 then q else q + 1

/-- The double nearest to `r`, ties to even; none when it rounds beyond the largest one. -/
def nearestDouble (r : ℚ) : Option ℚ :=
  if r = 0 then some 0 else
    let a := r.num.natAbs
    let b := r.den
    let e : Int := max (log2Floor a b - 52) (-1074)
    let m := if 0 ≤ e then roundDiv a (b * 2 ^ e.toNat) else roundDiv (a * 2 ^ (-e).toNat) b
    let x : ℚ := m * twoPow e
    if x < 2 ^ 1024 then some (if r < 0 then -x else x) else none

/-- The `n`-digit decimal `c / 10 ^ s` nearest to the positive double `x` that reads back as
    `x`, if any. -/
def digitsFor (x : ℚ) (n : Nat) : Option (Nat × Int) :=
  let s : Int := n - 1 - log10Floor x.num.natAbs x.den
  let y := x * tenPow s
  let lo := y.floor.toNat
  let back (c : Nat) : Bool := nearestDouble (c * tenPow (-s)) = some x
  let cs := if (lo : ℚ) = y then [lo] else
    if y - lo < lo + 1 - y then [lo, lo + 1]
    else if lo + 1 - y < y - lo then [lo + 1, lo] else
      if lo % 2 = 0 then [lo, lo + 1] else [lo + 1, lo]
  (cs.find? back).map fun c => (c, s)

/-- The shortest digits of a positive double: `x = c / 10 ^ s` up to the double's rounding.
    Seventeen significant digits always read back. -/
def shortestDigits (x : ℚ) : Nat × Int :=
  ((List.range 17).findSome? fun i => digitsFor x (i + 1)).getD
    ((x * tenPow (16 - log10Floor x.num.natAbs x.den)).floor.toNat,
      16 - log10Floor x.num.natAbs x.den)

/-- `s` without its trailing zeros. -/
def dropTrailingZeros (s : List Char) : List Char := (s.reverse.dropWhile (· = '0')).reverse

/-- `"0" * n`. -/
def zeros (n : Nat) : List Char := List.replicate n '0'

/-- `repr(x)` of a finite double: its shortest digits, in positional notation when the
    decimal point falls within `-4 < decpt ≤ 16` of them and in exponent notation otherwise. -/
def floatRepr (x : ℚ) : String :=
  if x = 0 then "0.0" else
    let (c, s) := shortestDigits (if x < 0 then -x else x)
    let all := (toString c).toList
    let ds := dropTrailingZeros all
    let decpt : Int := all.length - s
    let body : List Char :=
      if decpt ≤ -4 ∨ 16 < decpt then
        let e := decpt - 1
        let mant := match ds with
          | [] => ['0']
          | [d] => [d]
          | d :: more => d :: '.' :: more
        mant ++ ['e', if e < 0 then '-' else '+'] ++
          (let t := (toString e.natAbs).toList; zeros (2 - t.length) ++ t)
      else if decpt ≤ 0 then ['0', '.'] ++ zeros (-decpt).toNat ++ ds
      else if decpt.toNat < ds.length then ds.take decpt.toNat ++ '.' :: ds.drop decpt.toNat
      else ds ++ zeros (decpt.toNat - ds.length) ++ ['.', '0']
    String.mk (if x < 0 then '-' :: body else body)

/-- `repr(x)` of a float. -/
def PyFloat.repr : PyFloat → String
  | .fin x => floatRepr x
  | .inf neg => if neg then "-inf" else "inf"
  | .nan => "nan"

/-- `float(v)` when it is a finite double: none for an `int` beyond the double range, an
    infinity, NaN and a non-number. -/
def Value.toFinite? : Value → Option ℚ
  | .bool b => some (if b then 1 else 0)
  | .int i => nearestDouble i
  | .float (.fin x) => some x
  | _ => none

/-- The message of the `OverflowError` of converting a huge `int` to `float`. -/
def intTooLarge : PyExc := ⟨.overflowError, "int too large to convert to float"⟩

/-- `float(v)` for an operand of float arithmetic: none for a non-number, `OverflowError` for
    an `int` beyond the double range. -/
def Value.floatArg : Value → Option (Except PyExc PyFloat)
  | .bool b => some (.ok (.fin (if b then 1 else 0)))
  | .int i => some ((nearestDouble i).elim (.error intTooLarge) fun x => .ok (.fin x))
  | .float x => some (.ok x)
  | _ => none

/-- `x - y` on floats: NaN from a NaN or from two infinities of one sign, an infinity from an
    infinity, and otherwise the exact difference, before it is rounded. -/
def PyFloat.sub : PyFloat → PyFloat → PyFloat
  | .nan, _ | _, .nan => .nan
  | .inf n, .inf m => if n = m then .nan else .inf n
  | .inf n, .fin _ => .inf n
  | .fin _, .inf m => .inf !m
  | .fin x, .fin y => .fin (x - y)

/-- A number the scripts compute: an `int`, or a `float`, a finite one kept as the exact
    result of the operation before it is rounded to a double. -/
inductive PyNum where
  | int (i : Int)
  | float (x : PyFloat)
  deriving DecidableEq, Repr

/-- `a - b`: exact `int` arithmetic when neither operand is a `float`; otherwise both are
    converted to `float` first, which fails for an `int` beyond the double range. -/
def Value.sub (a b : Value) : Except PyExc PyNum :=
  match a.int?, b.int?, a.floatArg, b.floatArg with
  | some i, some j, _, _ => .ok (.int (i - j))
  | _, _, some x, some y => do .ok (.float ((← x).sub (← y)))
  | _, _, _, _ => .error ⟨.typeError, "unsupported operand type(s) for -: '" ++ a.typeName ++
      "' and '" ++ b.typeName ++ "'"⟩

/-- `n <= q` for a number literal `q`. -/
def PyNum.le (n : PyNum) (q : ℚ) : Bool :=
  match n with
  | .int i => decide ((i : ℚ) ≤ q)
  | .float (.fin x) => decide (x ≤ q)
  | .float (.inf neg) => neg
  | .float .nan => false

/-- The exact value of a number other than an infinity or NaN. -/
def PyNum.val? : PyNum → Option ℚ
  | .int i => some i
  | .float (.fin x) => some x
  | .float _ => none

theorem PyNum.le_of_val? {n : PyNum} {x : ℚ} (h : n.val? = some x) (q : ℚ) :
    n.le q = decide (x ≤ q) := by
  cases n with
  | int i => cases h; rfl
  | float f => cases f <;> cases h; rfl

/-- `str(n)`: an `int` in decimal; a finite `float` as the `repr` of the double it rounds to,
    or `inf` when it overflows. -/
def PyNum.str : PyNum → String
  | .int i => toString i
  | .float (.fin x) =>
    match nearestDouble x with
    | some d => floatRepr d
    | none => if 0 < x then "inf" else "-inf"
  | .float x => x.repr

/-- The double `x` with `d` digits after the point, rounded half to even on its exact value,
    as `"%.df" % x` writes it. -/
def fixedStr (d : Nat) (x : ℚ) : String :=
  let a := x.num.natAbs
  let n := roundDiv (a * 10 ^ d) x.den
  let frac := (toString (n % 10 ^ d)).toList
  String.mk ((if x < 0 then ['-'] else []) ++ (toString (n / 10 ^ d)).toList ++
    (if d = 0 then [] else '.' :: zeros (d - frac.length) ++ frac))

/-- `format(v, ".Nf")`, as the f-string `f"{v:.Nf}"` calls it: a `bool` or `int` is converted
    to `float` first, an infinity and NaN print as `inf`, `-inf` and `nan`; any other type
    refuses the spec. -/
def formatFixed (d : Nat) (v : Value) : Except PyExc String :=
  match v with
  | .float (.inf neg) => .ok (if neg then "-inf" else "inf")
  | .float .nan => .ok "nan"
  | .bool _ | .int _ | .float _ =>
    match v.toFinite? with
    | some x => .ok (fixedStr d x)
    | none => .error intTooLarge
  | .str _ => .error ⟨.valueError, "Unknown format code 'f' for object of type 'str'"⟩
  | v => .error ⟨.typeError, "unsupported format string passed to " ++ v.typeName ++
      ".__format__"⟩

/-- Two operands that convert to finite doubles subtract without an exception, to a finite
    number. -/
theorem Value.sub_isOk {a b : Value} (ha : a.toFinite?.isSome) (hb : b.toFinite?.isSome) :
    ∃ n x, a.sub b = .ok n ∧ n.val? = some x := by
  obtain ⟨x, hx⟩ := Option.isSome_iff_exists.1 ha
  obtain ⟨y, hy⟩ := Option.isSome_iff_exists.1 hb
  have hf : ∀ {v : Value} {x : ℚ}, v.toFinite? = some x → v.floatArg = some (.ok (.fin x)) := by
    intro v x h
    cases v with
    | int i => simp only [Value.toFinite?] at h; simp [Value.floatArg, h]
    | float f => cases f <;> simp_all [Value.toFinite?, Value.floatArg]
    | _ => simp_all [Value.toFinite?, Value.floatArg]
  simp only [Value.sub, hf hx, hf hy]
  split
  · exact ⟨_, _, rfl, rfl⟩
  · next hx' hy' _ =>
    cases hx'; cases hy'
    exact ⟨_, _, rfl, rfl⟩
  · next h => exact (h _ _ rfl rfl).elim

/-- A value that converts to a finite double compares as its number: the infinities and NaN,
    which read every guard their own way, are excluded. -/
theorem Value.cmp_of_toFinite? {v : Value} (strict : Bool) (n : ℚ) (h : v.toFinite?.isSome) :
    v.cmp strict n =
      .ok (if strict then decide (v.num?.getD 0 < n) else decide (v.num?.getD 0 ≤ n)) := by
  cases v with
  | float f => cases f <;> simp_all [Value.toFinite?, Value.cmp, Value.num?]
  | _ => simp_all [Value.toFinite?, Value.cmp, Value.num?]

/-- A value that converts to a finite double formats without an exception. -/
theorem formatFixed_isOk {v : Value} (d : Nat) (h : v.toFinite?.isSome) :
    ∃ t, formatFixed d v = .ok t := by
  obtain ⟨x, hx⟩ := Option.isSome_iff_exists.1 h
  cases v with
  | float f => cases f <;> simp_all [formatFixed, Value.toFinite?]
  | _ => simp_all [formatFixed, Value.toFinite?]

end Proxxy.Python

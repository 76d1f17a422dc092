import Proxxy.Python.Json
import Mathlib.Data.Nat.Digits

/-!
# `json.loads(json.dumps(v)) == v`

The native-messaging host writes every message with `json.dumps(v).encode('utf-8')` and reads
one with `json.loads(raw.decode('utf-8'))`. This file proves that the reader inverts the
writer: UTF-8 decoding gives back every string, and the JSON scanner gives back every value
without a `float` whose dicts have no repeated key and whose `int`s have at most 4300 digits,
when the levels of nesting still free cover its depth. Such a value is also one `json.dumps`
writes without an exception.

## Main results

- `scanValue_dumpsChars` — the scanner reads a printed value back, whatever text follows it
  that cannot continue a number.
- `loads_dumps` — `json.loads(json.dumps(v)) == v`.
- `dumpsError_eq_none` — `json.dumps` raises nothing on such a value.
- `decodeUtf8_encodeUtf8` — `s.encode('utf-8').decode('utf-8') == s`.

## Design notes

Every component is stated on its printed text followed by any rest, so that a component of a
list or a dict is read by the same lemma as a whole document. Positions only feed the
messages of `JSONDecodeError`, so the lemmas say that some position is reached, not which.
A `float` is left out: `repr` prints the shortest digits that round back to the double, and
the scanner reads them back through `nearestDouble`, which is a theorem about doubles this
file does not prove.
-/

namespace Proxxy.Python.Json

-- ════════════════════════════════════════════════════════════════════════
-- Decimal digits
-- ════════════════════════════════════════════════════════════════════════

/-- The value of a list of decimal digits, as `scanNumber` reads it. -/
def decimalValue (ds : List Char) : Nat := ds.foldl (fun n d => n * 10 + (d.toNat - 48)) 0

theorem decimalValue_append_singleton (ds : List Char) (d : Char) :
    decimalValue (ds ++ [d]) = decimalValue ds * 10 + (d.toNat - 48) := by
  simp [decimalValue, List.foldl_append]

theorem isDigit_iff {d : Char} : d.isDigit ↔ 48 ≤ d.toNat ∧ d.toNat ≤ 57 := by
  simp only [Char.isDigit, Bool.and_eq_true, decide_eq_true_eq]
  exact Iff.rfl

theorem digitChar_of_lt : ∀ d < 10, (Nat.digitChar d).isDigit ∧ (Nat.digitChar d).toNat - 48 = d := by
  decide

/-- The digits `Nat.toDigitsCore` prepends: decimal digits whose value is the number, with no
    leading zero unless the number is zero. -/
theorem toDigitsCore_spec : ∀ (f n : Nat) (acc : List Char), n < f →
    ∃ ds, Nat.toDigitsCore 10 f n acc = ds ++ acc ∧ (∀ c ∈ ds, c.isDigit) ∧
      decimalValue ds = n ∧ ds ≠ [] ∧ (ds.head? = some '0' → n = 0)
  | 0, _, _, h => absurd h (Nat.not_lt_zero _)
  | f + 1, n, acc, h => by
    obtain ⟨hd, hv⟩ := digitChar_of_lt (n % 10) (Nat.mod_lt _ (by decide))
    simp only [Nat.toDigitsCore]
    split
    · refine ⟨[Nat.digitChar (n % 10)], rfl, by simpa using hd, ?_, by simp, fun h' => ?_⟩
      · simp [decimalValue, hv]; omega
      · simp only [List.head?_cons, Option.some.injEq] at h'
        rw [h'] at hv
        simp at hv
        omega
    · rename_i h0
      obtain ⟨ds, he, hds, hval, hne, hz⟩ :=
        toDigitsCore_spec f (n / 10) (Nat.digitChar (n % 10) :: acc) (by omega)
      refine ⟨ds ++ [Nat.digitChar (n % 10)], by simp [he], fun c hc => ?_, ?_, by simp, ?_⟩
      · rcases List.mem_append.1 hc with hc | hc
        · exact hds c hc
        · rw [List.mem_singleton.1 hc]; exact hd
      · rw [decimalValue_append_singleton, hval, hv]; omega
      · obtain ⟨d, ds, rfl⟩ := List.exists_cons_of_ne_nil hne
        exact fun h' => absurd (hz (by simpa using h')) h0

-- ════════════════════════════════════════════════════════════════════════
-- Numbers
-- ════════════════════════════════════════════════════════════════════════

/-- What may follow a number in the text without being read as part of it. -/
def numberEnds : List Char → Bool
  | [] => true
  | c :: _ => !c.isDigit && c != '.' && c != 'e' && c != 'E'

theorem digitsPrefix_append {ds rest : List Char} (hd : ∀ c ∈ ds, c.isDigit)
    (hr : numberEnds rest) : digitsPrefix (ds ++ rest) = ds := by
  induction ds with
  | nil =>
    cases rest with
    | nil => rfl
    | cons c more => simp_all [numberEnds, digitsPrefix]
  | cons d ds ih => simp_all [digitsPrefix, List.takeWhile_cons]

/-- Digits without a leading zero, signed or not, read back as their `int`. -/
theorem scanNumber_digits (doc : List Char) {d : Char} {ds rest : List Char} (pos : Nat)
    (neg : Bool) (hd : ∀ c ∈ d :: ds, c.isDigit) (hnz : d ≠ '0') (hr : numberEnds rest)
    (hlen : ds.length + 1 ≤ maxStrDigits) :
    ∃ p, scanNumber doc ((if neg then ['-'] else []) ++ d :: ds ++ rest) pos =
      .ok (.int ((if neg then -1 else 1) * decimalValue (d :: ds)), rest, p) := by
  have hdig := isDigit_iff.1 (hd d (List.mem_cons_self _ _))
  have hminus : d ≠ '-' := by rintro rfl; simp at hdig
  have h0 : d.toNat ≠ 48 := fun e => hnz (by rw [← Char.ofNat_toNat d, e])
  have h19 : '1' ≤ d ∧ d ≤ '9' := ⟨by change 49 ≤ d.toNat; omega, hdig.2⟩
  have hp := digitsPrefix_append hd hr
  have hl : ¬ maxStrDigits < ds.length + 1 := Nat.not_lt.2 hlen
  unfold scanNumber
  cases rest with
  | nil =>
    simp only [List.append_nil, List.cons_append] at hp
    cases neg <;> simp [hminus, hnz, h19, hp, hl, decimalValue, Nat.one_add]
  | cons c more =>
    simp only [List.cons_append] at hp
    simp only [numberEnds, Bool.and_eq_true, Bool.not_eq_true', bne_iff_ne, ne_eq] at hr
    cases neg <;> simp [hminus, hnz, h19, hp, hr, hl, decimalValue, Nat.one_add]

/-- `0` reads back as `0`. -/
theorem scanNumber_zero (doc : List Char) {rest : List Char} (pos : Nat) (hr : numberEnds rest) :
    ∃ p, scanNumber doc ('0' :: rest) pos = .ok (.int 0, rest, p) := by
  unfold scanNumber
  cases rest with
  | nil => simp [decimalValue, maxStrDigits]
  | cons c more =>
    simp only [numberEnds, Bool.and_eq_true, Bool.not_eq_true', bne_iff_ne, ne_eq] at hr
    simp [hr, decimalValue, maxStrDigits]

/-- A positive `int` prints as decimal digits without a leading zero, of its own value. -/
theorem toString_digits {n : Nat} (hn : 0 < n) : ∃ d ds, (toString n).toList = d :: ds ∧
    (∀ c ∈ d :: ds, c.isDigit) ∧ d ≠ '0' ∧ decimalValue (d :: ds) = n := by
  obtain ⟨ds, he, hds, hv, hne, hz⟩ := toDigitsCore_spec (n + 1) n [] (by omega)
  obtain ⟨d, ds, rfl⟩ := List.exists_cons_of_ne_nil hne
  refine ⟨d, ds, by simpa using he, hds, fun h => ?_, hv⟩
  exact absurd (hz (by simp [h])) (by omega)

/-- An `int` prints as a digit first, or a minus sign and then a digit. -/
theorem toString_int_head (i : Int) :
    ∃ c cs, (toString i).toList = c :: cs ∧
      ((48 ≤ c.toNat ∧ c.toNat ≤ 57) ∨ (c = '-' ∧ ∃ d ds, cs = d :: ds ∧ d.isDigit)) := by
  cases i with
  | ofNat n =>
    rcases Nat.eq_zero_or_pos n with rfl | hn
    · exact ⟨'0', [], rfl, .inl (by decide)⟩
    · obtain ⟨d, ds, he, hds, -, -⟩ := toString_digits hn
      exact ⟨d, ds, he, .inl (isDigit_iff.1 (hds d (List.mem_cons_self _ _)))⟩
  | negSucc m =>
    obtain ⟨d, ds, he, hds, -, -⟩ := toString_digits (Nat.succ_pos m)
    exact ⟨'-', _, rfl, .inr ⟨rfl, d, ds, he, hds d (List.mem_cons_self _ _)⟩⟩

/-- An `int` of at most 4300 digits, as `str` prints it, reads back as itself. -/
theorem scanNumber_toString (doc : List Char) (i : Int) {rest : List Char} (pos : Nat)
    (hr : numberEnds rest) (hi : (toString i.natAbs).length ≤ maxStrDigits) :
    ∃ p, scanNumber doc ((toString i).toList ++ rest) pos = .ok (.int i, rest, p) := by
  cases i with
  | ofNat n =>
    rcases Nat.eq_zero_or_pos n with rfl | hn
    · exact scanNumber_zero doc pos hr
    · obtain ⟨d, ds, he, hds, hnz, hv⟩ := toString_digits hn
      obtain ⟨p, hp⟩ := scanNumber_digits doc pos false hds hnz hr <| by
        rw [← List.length_cons, ← he]; exact hi
      refine ⟨p, ?_⟩
      change scanNumber doc ((toString n).toList ++ rest) pos = _
      rw [he]
      simpa [hv] using hp
  | negSucc m =>
    obtain ⟨d, ds, he, hds, hnz, hv⟩ := toString_digits (Nat.succ_pos m)
    obtain ⟨p, hp⟩ := scanNumber_digits doc pos true hds hnz hr <| by
      rw [← List.length_cons, ← he]; exact hi
    refine ⟨p, ?_⟩
    simp only [hv] at hp
    change scanNumber doc ('-' :: ((toString (m + 1)).toList ++ rest)) pos = _
    rw [he]
    simpa [Int.negSucc_eq] using hp

-- ════════════════════════════════════════════════════════════════════════
-- Strings
-- ════════════════════════════════════════════════════════════════════════

theorem hexVal_hexDigit : ∀ d < 16, hexVal (hexDigit d) = some d := by decide

theorem hexPad_four (n : Nat) :
    hexPad 4 n = [hexDigit (n / 4096 % 16), hexDigit (n / 256 % 16), hexDigit (n / 16 % 16),
      hexDigit (n % 16)] := by
  simp [hexPad, List.range_succ]

theorem hex4Val_hexPad {n : Nat} (h : n < 0x10000) : hex4Val (hexPad 4 n) = some n := by
  rw [hexPad_four]
  simp only [hex4Val, hexVal_hexDigit _ (Nat.mod_lt _ (by decide : 16 > 0)), Option.bind_eq_bind,
    Option.some_bind, Option.pure_def, Option.some.injEq]
  omega


/-- The two halves `json.dumps` writes for a character beyond the BMP, and how the scanner
    puts them back together. -/
theorem surrogate_split {n : Nat} (h₁ : 0x10000 ≤ n) (h₂ : n < 0x110000) :
    0xd800 + (n - 0x10000) / 1024 < 0x10000 ∧ 0xdc00 + (n - 0x10000) % 1024 < 0x10000 ∧
      (0xd800 ≤ 0xd800 + (n - 0x10000) / 1024 ∧ 0xd800 + (n - 0x10000) / 1024 ≤ 0xdbff) ∧
      (0xdc00 ≤ 0xdc00 + (n - 0x10000) % 1024 ∧ 0xdc00 + (n - 0x10000) % 1024 ≤ 0xdfff) ∧
      0x10000 + (0xd800 + (n - 0x10000) / 1024 - 0xd800) * 1024 +
        (0xdc00 + (n - 0x10000) % 1024 - 0xdc00) = n := by
  omega

/-! The equation lemmas of `scanString` are out of reach of the generator (its character
patterns overlap), so its steps below unfold it by definition, with smart unfolding off so
that a symbolic tail does not block the unfolding. -/

section
set_option smartUnfolding false
variable (doc : List Char) (b : Nat) (pos : Nat) (acc : List Char)

theorem scanString_plain {c : Char} (cs : List Char) (h1 : c.toNat ≠ 34) (h2 : c.toNat ≠ 92)
    (h3 : ¬ c.toNat < 32) :
    scanString doc b (c :: cs) pos acc = scanString doc b cs (pos + 1) (c :: acc) := by
  show (if c.toNat = 34 then _ else _) = _
  rw [if_neg h1, if_neg h2, if_neg h3]
  rfl

theorem scanString_quote (cs : List Char) :
    scanString doc b (Char.ofNat 34 :: cs) pos acc = .ok (String.mk acc.reverse, cs, pos + 1) := rfl

theorem scanString_escape (e : Char) (cs : List Char) (he : e ∈ ['"', '\\', 'b', 'f', 'n', 'r', 't']) :
    scanString doc b (Char.ofNat 92 :: e :: cs) pos acc =
      scanString doc b cs (pos + 2) ((simpleEscape e).getD e :: acc) := by
  simp only [List.mem_cons, List.mem_nil_iff, or_false] at he
  rcases he with rfl | rfl | rfl | rfl | rfl | rfl | rfl <;> rfl

theorem scanString_unicode {h₁ h₂ h₃ h₄ : Char} {u : Nat} (after : List Char)
    (hh : hex4Val [h₁, h₂, h₃, h₄] = some u) (ha : after ≠ []) (hs : u < 0xd800 ∨ 0xdfff < u) :
    scanString doc b (Char.ofNat 92 :: 'u' :: h₁ :: h₂ :: h₃ :: h₄ :: after) pos acc =
      scanString doc b after (pos + 6) (Char.ofNat u :: acc) := by
  show (match hex4Val [h₁, h₂, h₃, h₄] with | none => _ | some u => _) = _
  rw [hh]
  show (if after.isEmpty then _ else _) = _
  rw [if_neg (by simpa using ha), if_pos hs]
  rfl

theorem scanString_surrogates {h₁ h₂ h₃ h₄ l₁ l₂ l₃ l₄ : Char} {u l : Nat} (after : List Char)
    (hh : hex4Val [h₁, h₂, h₃, h₄] = some u) (hl : hex4Val [l₁, l₂, l₃, l₄] = some l)
    (ha : after ≠ []) (hu : 0xd800 ≤ u ∧ u ≤ 0xdbff) (hl' : 0xdc00 ≤ l ∧ l ≤ 0xdfff) :
    scanString doc b (Char.ofNat 92 :: 'u' :: h₁ :: h₂ :: h₃ :: h₄ ::
        Char.ofNat 92 :: 'u' :: l₁ :: l₂ :: l₃ :: l₄ :: after) pos acc =
      scanString doc b after (pos + 12)
        (Char.ofNat (0x10000 + (u - 0xd800) * 1024 + (l - 0xdc00)) :: acc) := by
  show (match hex4Val [h₁, h₂, h₃, h₄] with | none => _ | some u => _) = _
  rw [hh]
  show (if _ then _ else _) = _
  rw [if_neg (by simp), if_neg (by omega)]
  show (match hex4Val [l₁, l₂, l₃, l₄] with | none => _ | some l => _) = _
  rw [hl]
  show (if _ then _ else _) = _
  rw [if_pos ⟨rfl, ha, hu.2, hl'⟩]
  rfl

theorem scanString_escapeJsonChar (c : Char) {more : List Char} (hm : more ≠ []) :
    ∃ k, scanString doc b (escapeJsonChar c ++ more) pos acc =
      scanString doc b more (pos + k) (c :: acc) := by
  have hc : ∀ n, c.toNat = n → c = Char.ofNat n := fun n h => by rw [← h, Char.ofNat_toNat]
  have hv : c.toNat < 0xd800 ∨ (0xdfff < c.toNat ∧ c.toNat < 0x110000) := c.valid
  unfold escapeJsonChar
  split
  case h_8 _ h92 h34 _ _ _ _ _ =>
    have hu : ∀ n, n < 0x10000 → hex4Val [hexDigit (n / 4096 % 16), hexDigit (n / 256 % 16),
        hexDigit (n / 16 % 16), hexDigit (n % 16)] = some n := fun n h => by
      rw [← hexPad_four]; exact hex4Val_hexPad h
    split_ifs with hp hb
    · exact ⟨1, scanString_plain doc b pos acc more h34 h92 (by omega)⟩
    · simp only [escaped, hexPad_four, List.cons_append, List.nil_append]
      have hs : c.toNat < 0xd800 ∨ 0xdfff < c.toNat := hv.imp_right And.left
      exact ⟨6, by rw [scanString_unicode doc b pos acc more (hu _ hb) hm hs, Char.ofNat_toNat]⟩
    · simp only [escaped, hexPad_four, List.cons_append, List.nil_append, List.append_assoc]
      obtain ⟨hu₁, hl₁, hu₂, hl₂, hn⟩ := surrogate_split (Nat.le_of_not_lt hb)
        (hv.elim (fun h => by omega) And.right)
      exact ⟨12, by rw [scanString_surrogates doc b pos acc more (hu _ hu₁) (hu _ hl₁) hm hu₂ hl₂,
        hn, Char.ofNat_toNat]⟩
  -- the seven one-letter escapes
  all_goals
    rename_i h
    rw [hc _ h]
    exact ⟨2, scanString_escape doc b pos acc _ _ (by decide)⟩

/-- The escaped characters of a string, then its closing quote, read back as the string. -/
theorem scanString_escaped (rest : List Char) :
    ∀ (cs : List Char) (pos : Nat) (acc : List Char), ∃ p,
      scanString doc b (cs.flatMap escapeJsonChar ++ Char.ofNat 34 :: rest) pos acc =
        .ok (String.mk (acc.reverse ++ cs), rest, p)
  | [], pos, acc => ⟨_, by simpa using scanString_quote doc b pos acc rest⟩
  | c :: cs, pos, acc => by
    obtain ⟨k, hk⟩ := scanString_escapeJsonChar doc b pos acc c
      (show cs.flatMap escapeJsonChar ++ Char.ofNat 34 :: rest ≠ [] by simp)
    obtain ⟨p, hp⟩ := scanString_escaped rest cs (pos + k) (c :: acc)
    exact ⟨p, by rw [List.flatMap_cons, List.append_assoc, hk, hp]; simp⟩
end

-- ════════════════════════════════════════════════════════════════════════
-- Values
-- ════════════════════════════════════════════════════════════════════════

/-- A value `json.dumps` writes and `json.loads` reads back as itself: no `float`, no `int` of
    more than 4300 digits, and no dict that repeats a key (the reader keeps the key's first
    place and its last value). -/
inductive Exact : Value → Prop
  | null : Exact .null
  | bool (b : Bool) : Exact (.bool b)
  | int {i : Int} : (toString i.natAbs).length ≤ maxStrDigits → Exact (.int i)
  | str (s : String) : Exact (.str s)
  | list {xs : List Value} : (∀ x ∈ xs, Exact x) → Exact (.list xs)
  | dict {kvs : List (String × Value)} : (kvs.map Prod.fst).Nodup → (∀ kv ∈ kvs, Exact kv.2) →
      Exact (.dict kvs)

theorem skipWs_of_not_ws {c : Char} (h : isWs c = false) (cs : List Char) (pos : Nat) :
    skipWs (c :: cs) pos = (c :: cs, pos) := by
  simp [skipWs, h]

theorem skipWs_space (cs : List Char) (pos : Nat) : skipWs (' ' :: cs) pos = skipWs cs (pos + 1) := by
  simp [skipWs, isWs]

theorem items_eq_map (xs : List Value) : dumpsChars.items xs = xs.map dumpsChars := by
  induction xs with
  | nil => rfl
  | cons x xs ih => simp [dumpsChars.items, ih]

/-- The text of one member of a dict: the quoted key, `": "` and the value. -/
def memberText (kv : String × Value) : List Char := quoteJson kv.1 ++ [':', ' '] ++ dumpsChars kv.2

theorem pairs_eq_map (kvs : List (String × Value)) : dumpsChars.pairs kvs = kvs.map memberText := by
  induction kvs with
  | nil => rfl
  | cons kv kvs ih => simp [dumpsChars.pairs, ih, memberText]

theorem length_le_joinWith (sep : List Char) {ps : List (List Char)} {p : List Char} (h : p ∈ ps) :
    p.length ≤ (joinWith sep ps).length := by
  induction ps with
  | nil => cases h
  | cons q qs ih =>
    cases qs with
    | nil => simp_all [joinWith]
    | cons r rs =>
      rcases List.mem_cons.1 h with rfl | h
      · simp [joinWith]
      · simp only [joinWith, List.length_append]; have := ih h; omega

theorem length_le_joinWith_of_ne (sep : List Char) {ps : List (List Char)} (h : ∀ p ∈ ps, p ≠ []) :
    ps.length ≤ (joinWith sep ps).length := by
  induction ps with
  | nil => simp [joinWith]
  | cons q qs ih =>
    have hq := List.length_pos.2 (h q (List.mem_cons_self _ _))
    have := ih fun p hp => h p (List.mem_cons_of_mem _ hp)
    cases qs with
    | nil => simp [joinWith]; omega
    | cons r rs => simp only [joinWith, List.length_append, List.length_cons] at this ⊢; omega

/-- A printed value starts with an ASCII character that is neither whitespace nor the end of
    a list. -/
theorem dumpsChars_head {v : Value} (hv : Exact v) :
    ∃ c cs, dumpsChars v = c :: cs ∧ isWs c = false ∧ c ≠ ']' ∧ c.toNat < 0x80 := by
  cases hv with
  | null => exact ⟨_, _, rfl, rfl, by decide, by decide⟩
  | bool b => cases b <;> exact ⟨_, _, rfl, rfl, by decide, by decide⟩
  | @int i _ =>
    obtain ⟨c, cs, he, hc⟩ := toString_int_head i
    have hc' : c.toNat = 45 ∨ (48 ≤ c.toNat ∧ c.toNat ≤ 57) := by
      rcases hc with hc | ⟨rfl, -⟩
      exacts [.inr hc, .inl rfl]
    refine ⟨c, cs, by simp only [dumpsChars]; exact he, ?_, ?_, by omega⟩
    · simp only [isWs, decide_eq_false_iff_not]
      intro h
      rcases h with rfl | rfl | rfl | rfl <;> simp at hc'
    · rintro rfl; simp at hc'
  | str s => exact ⟨_, _, rfl, rfl, by decide, by decide⟩
  | list _ => exact ⟨_, _, rfl, rfl, by decide, by decide⟩
  | dict _ _ => exact ⟨_, _, rfl, rfl, by decide, by decide⟩


theorem joinWith_cons_cons (sep p q : List Char) (qs : List (List Char)) :
    joinWith sep (p :: q :: qs) = p ++ sep ++ joinWith sep (q :: qs) := rfl

theorem joinWith_cons_of_eq (sep : List Char) (ps : List (List Char)) {p : List Char} {c : Char}
    {cs : List Char} (h : p = c :: cs) : ∃ t, joinWith sep (p :: ps) = c :: t := by
  subst h
  cases ps <;> exact ⟨_, rfl⟩

/-- The reader of one value, on the printed text of a value followed by any rest a number
    cannot continue. -/
def ReadsBack (value : List Char → Nat → Parsed Value) (v : Value) : Prop :=
  ∀ rest pos, numberEnds rest → ∃ p, value (dumpsChars v ++ rest) pos = .ok (v, rest, p)

theorem arrayItems_items (doc : List Char) (value : List Char → Nat → Parsed Value)
    (rest : List Char) : ∀ (xs : List Value), xs ≠ [] → (∀ x ∈ xs, ReadsBack value x) →
      (∀ x ∈ xs, ∃ c cs, dumpsChars x = c :: cs ∧ isWs c = false) →
      ∀ (F pos : Nat) (acc : List Value), xs.length ≤ F → ∃ p,
        arrayItems doc value F (joinWith [',', ' '] (xs.map dumpsChars) ++ ']' :: rest) pos acc =
          .ok (.list (acc.reverse ++ xs), rest, p)
  | [], h, _, _, _, _, _, _ => absurd rfl h
  | [x], _, hx, _, F + 1, pos, acc, _ => by
    obtain ⟨p, hp⟩ := hx x (List.mem_singleton_self _) (']' :: rest) pos rfl
    refine ⟨p + 1, ?_⟩
    simp [arrayItems, joinWith, hp, skipWs_of_not_ws (show isWs ']' = false from rfl)]
  | x :: y :: ys, _, hx, hh, F + 1, pos, acc, hF => by
    obtain ⟨p, hp⟩ := hx x (List.mem_cons_self _ _)
      (',' :: ' ' :: (joinWith [',', ' '] ((y :: ys).map dumpsChars) ++ ']' :: rest)) pos rfl
    obtain ⟨c, cs, hy, hc⟩ := hh y (List.mem_cons_of_mem _ (List.mem_cons_self _ _))
    obtain ⟨q, hq⟩ := arrayItems_items doc value rest (y :: ys) (List.cons_ne_nil _ _)
      (fun z hz => hx z (List.mem_cons_of_mem _ hz)) (fun z hz => hh z (List.mem_cons_of_mem _ hz))
      F (p + 1 + 1) (x :: acc) (by simp at hF ⊢; omega)
    obtain ⟨t, ht⟩ := joinWith_cons_of_eq [',', ' '] (ys.map dumpsChars) hy
    refine ⟨q, ?_⟩
    simp only [List.map_cons, ht, List.cons_append] at hp hq
    simp only [List.map_cons, joinWith, ht]
    simp [arrayItems, List.append_assoc, hp, skipWs_of_not_ws (show isWs ',' = false from rfl),
      skipWs_space, hy, skipWs_of_not_ws hc, hq]
  | _ :: _, _, _, _, 0, _, _, hF => absurd hF (by simp)


theorem objectItems_members (doc : List Char) (value : List Char → Nat → Parsed Value)
    (rest : List Char) : ∀ (kvs : List (String × Value)), kvs ≠ [] →
      (∀ kv ∈ kvs, ReadsBack value kv.2) →
      (∀ kv ∈ kvs, ∃ c cs, dumpsChars kv.2 = c :: cs ∧ isWs c = false) →
      ∀ (F pos : Nat) (acc : List (String × Value)), ((acc ++ kvs).map Prod.fst).Nodup →
      kvs.length ≤ F → ∃ p,
        objectItems doc value F (joinWith [',', ' '] (kvs.map memberText) ++ '\x7d' :: rest) pos
          acc = .ok (.dict (acc ++ kvs), rest, p)
  | [], h, _, _, _, _, _, _, _ => absurd rfl h
  | (k, v) :: more, _, hx, hh, F + 1, pos, acc, hn, hF => by
    obtain ⟨c, cs, hv, hc⟩ := hh (k, v) (List.mem_cons_self _ _)
    have hk : k ∉ acc.map Prod.fst := by
      simp only [List.map_append, List.map_cons] at hn
      exact fun h => (List.nodup_append.1 hn).2.2 h (List.mem_cons_self _ _)
    have hs : setItems acc k v = acc ++ [(k, v)] := setItems_of_not_mem v hk
    have hkey : String.mk k.data = k := rfl
    cases more with
    | nil =>
      obtain ⟨p₁, hp₁⟩ := scanString_escaped doc pos (':' :: ' ' :: (dumpsChars v ++ '\x7d' :: rest))
        k.data (pos + 1) []
      obtain ⟨p₂, hp₂⟩ := hx (k, v) (List.mem_cons_self _ _) ('\x7d' :: rest) (p₁ + 1 + 1) rfl
      simp only [List.reverse_nil, List.nil_append, hkey, hv, List.cons_append] at hp₁
      simp only [hv, List.cons_append] at hp₂
      refine ⟨p₂ + 1, ?_⟩
      simp [objectItems, joinWith, memberText, quoteJson, hp₁, hp₂, hs, hv,
        skipWs_of_not_ws (show isWs ':' = false from rfl), skipWs_space, skipWs_of_not_ws hc,
        skipWs_of_not_ws (show isWs '\x7d' = false from rfl)]
    | cons kv more =>
      obtain ⟨t, ht⟩ := joinWith_cons_of_eq [',', ' '] (more.map memberText)
        (show memberText kv = Char.ofNat 34 :: _ from rfl)
      let tail : List Char := ',' :: ' ' :: (Char.ofNat 34 :: t ++ '\x7d' :: rest)
      obtain ⟨p₁, hp₁⟩ := scanString_escaped doc pos (':' :: ' ' :: (dumpsChars v ++ tail))
        k.data (pos + 1) []
      obtain ⟨p₂, hp₂⟩ := hx (k, v) (List.mem_cons_self _ _) tail (p₁ + 1 + 1) rfl
      obtain ⟨q, hq⟩ := objectItems_members doc value rest (kv :: more) (List.cons_ne_nil _ _)
        (fun z hz => hx z (List.mem_cons_of_mem _ hz)) (fun z hz => hh z (List.mem_cons_of_mem _ hz))
        F (p₂ + 1 + 1) (acc ++ [(k, v)]) (by simpa using hn) (by simp at hF ⊢; omega)
      simp only [List.reverse_nil, List.nil_append, hkey, hv, List.cons_append, tail] at hp₁
      simp only [hv, List.cons_append, tail] at hp₂
      rw [List.map_cons, ht] at hq
      simp only [List.cons_append, List.append_assoc, List.singleton_append] at hq
      refine ⟨q, ?_⟩
      rw [List.map_cons, List.map_cons, joinWith_cons_cons, ht]
      simp only [memberText, quoteJson, List.cons_append, List.append_assoc, List.singleton_append]
      simp [objectItems, hp₁, hp₂, hs, hv, hq,
        skipWs_of_not_ws (show isWs ':' = false from rfl), skipWs_space, skipWs_of_not_ws hc,
        skipWs_of_not_ws (show isWs ',' = false from rfl),
        skipWs_of_not_ws (show isWs (Char.ofNat 34) = false from rfl)]
  | _ :: _, _, _, _, 0, _, _, _, hF => absurd hF (by simp)


/-- A digit, or a minus sign before a digit, sends the scanner to `scanNumber`. -/
theorem scanValue_number {c : Char} {cs : List Char}
    (hc : (48 ≤ c.toNat ∧ c.toNat ≤ 57) ∨ (c = '-' ∧ ∃ d ds, cs = d :: ds ∧ d.isDigit))
    (doc : List Char) (limit pos : Nat) :
    scanValue doc limit (c :: cs) pos = scanNumber doc (c :: cs) pos := by
  rcases hc with hc | ⟨rfl, d, ds, rfl, hd⟩
  · have ne : ∀ d : Char, ¬ (48 ≤ d.toNat ∧ d.toNat ≤ 57) → c ≠ d := fun d h e => h (e ▸ hc)
    have h34 : c.toNat ≠ 34 := by omega
    rw [scanValue_scalar (ne '[' (by simp)) (ne '\x7b' (by simp))]
    simp [scanScalar, startsWith, h34, (ne 'n' (by simp)).symm, (ne 't' (by simp)).symm,
      (ne 'f' (by simp)).symm, (ne 'N' (by simp)).symm, (ne 'I' (by simp)).symm,
      (ne '-' (by simp)).symm]
  · have hI : 'I' ≠ d := by rintro rfl; simp at hd
    rw [scanValue_scalar (by decide) (by decide)]
    simp [scanScalar, startsWith, hI]

/-- The scanner reads every printed `Exact` value back when the levels of nesting still free
    cover its depth, whatever follows that a number cannot continue. -/
theorem scanValue_dumpsChars (doc : List Char) {v : Value} (hv : Exact v) :
    ∀ limit, depth v ≤ limit → ReadsBack (scanValue doc limit) v := by
  induction hv with
  | null => exact fun _ _ _ pos _ => ⟨pos + 4, by
      simp [dumpsChars, scanValue_scalar (c := 'n') (by decide) (by decide), scanScalar,
        startsWith]⟩
  | bool b =>
    intro _ _ rest pos _
    cases b
    · exact ⟨pos + 5, by
        simp [dumpsChars, scanValue_scalar (c := 'f') (by decide) (by decide), scanScalar,
          startsWith]⟩
    · exact ⟨pos + 4, by
        simp [dumpsChars, scanValue_scalar (c := 't') (by decide) (by decide), scanScalar,
          startsWith]⟩
  | @int i hi =>
    intro limit _ rest pos hr
    obtain ⟨c, cs, he, hc⟩ := toString_int_head i
    have hs := @scanValue_number c (cs ++ rest)
      (hc.imp id fun ⟨h, d, ds, hcs, hd⟩ => ⟨h, d, ds ++ rest, by rw [hcs]; rfl, hd⟩) doc limit pos
    rw [← List.cons_append, ← he] at hs
    simp only [dumpsChars, hs]
    exact scanNumber_toString doc i pos hr hi
  | str s =>
    intro _ _ rest pos _
    obtain ⟨p, hp⟩ := scanString_escaped doc pos rest s.data (pos + 1) []
    exact ⟨p, by
      simp [dumpsChars, quoteJson, scanValue_scalar (c := Char.ofNat 34) (by decide) (by decide),
        scanScalar, hp]; rfl⟩
  | @list xs hxs ih =>
    intro limit hd rest pos _
    simp only [depth] at hd
    obtain ⟨l, rfl⟩ : ∃ l, limit = l + 1 := ⟨limit - 1, by omega⟩
    rw [dumpsChars, items_eq_map]
    rcases xs with _ | ⟨x, xs⟩
    · exact ⟨pos + 2, by simp [scanValue, joinWith, skipWs_of_not_ws (show isWs ']' = false from rfl)]⟩
    · have hheads : ∀ y ∈ x :: xs, ∃ c cs, dumpsChars y = c :: cs ∧ isWs c = false :=
        fun y hy => let ⟨c, cs, h, hw, _, _⟩ := dumpsChars_head (hxs y hy); ⟨c, cs, h, hw⟩
      have hlen : (x :: xs).length ≤ (joinWith [',', ' '] ((x :: xs).map dumpsChars)).length :=
        (List.length_map _ _).symm.le.trans <| length_le_joinWith_of_ne _ fun p hp => by
          obtain ⟨y, hy, rfl⟩ := List.mem_map.1 hp
          obtain ⟨c, cs, h, -⟩ := hheads y hy
          simp [h]
      obtain ⟨p, hp⟩ := arrayItems_items doc (scanValue doc l) rest (x :: xs) (List.cons_ne_nil _ _)
        (fun y hy => ih y hy l ((depth_le_items hy).trans (by omega)))
        hheads ((joinWith [',', ' '] ((x :: xs).map dumpsChars) ++ ']' :: rest).length + 1)
        (pos + 1) [] (by simp only [List.length_append]; omega)
      obtain ⟨c, cs, hx, hw, hb, -⟩ := dumpsChars_head (hxs x (List.mem_cons_self _ _))
      obtain ⟨t, ht⟩ := joinWith_cons_of_eq [',', ' '] (xs.map dumpsChars) hx
      refine ⟨p, ?_⟩
      rw [List.map_cons, ht] at hp ⊢
      simp only [List.cons_append, List.reverse_nil, List.nil_append, List.length_cons,
        List.length_append] at hp
      simp [scanValue, skipWs_of_not_ws hw, hb, hp]
  | @dict kvs hn hkvs ih =>
    intro limit hd rest pos _
    simp only [depth] at hd
    obtain ⟨l, rfl⟩ : ∃ l, limit = l + 1 := ⟨limit - 1, by omega⟩
    rw [dumpsChars, pairs_eq_map]
    rcases kvs with _ | ⟨kv, kvs⟩
    · exact ⟨pos + 2, by simp [scanValue, joinWith, skipWs_of_not_ws (show isWs '\x7d' = false from rfl)]⟩
    · have hq : ∀ y, memberText y = Char.ofNat 34 :: (memberText y).tail := fun _ => rfl
      have hlen : (kv :: kvs).length ≤ (joinWith [',', ' '] ((kv :: kvs).map memberText)).length :=
        (List.length_map _ _).symm.le.trans <| length_le_joinWith_of_ne _ fun p hp => by
          obtain ⟨y, -, rfl⟩ := List.mem_map.1 hp
          rw [hq y]
          exact List.cons_ne_nil _ _
      obtain ⟨p, hp⟩ := objectItems_members doc (scanValue doc l) rest (kv :: kvs)
        (List.cons_ne_nil _ _)
        (fun y hy => ih y hy l ((depth_le_pairs hy).trans (by omega)))
        (fun y hy => let ⟨c, cs, h, hw, _, _⟩ := dumpsChars_head (hkvs y hy); ⟨c, cs, h, hw⟩)
        ((joinWith [',', ' '] ((kv :: kvs).map memberText) ++ '\x7d' :: rest).length + 1)
        (pos + 1) [] (by simpa using hn) (by simp only [List.length_append]; omega)
      obtain ⟨t, ht⟩ := joinWith_cons_of_eq [',', ' '] (kvs.map memberText) (hq kv)
      refine ⟨p, ?_⟩
      rw [List.map_cons, ht] at hp ⊢
      simp only [List.cons_append, List.nil_append, List.length_cons, List.length_append] at hp
      simp [scanValue, skipWs_of_not_ws (show isWs (Char.ofNat 34) = false from rfl), hp]

-- ════════════════════════════════════════════════════════════════════════
-- json.loads and json.dumps
-- ════════════════════════════════════════════════════════════════════════

/-- `json.loads(json.dumps(v)) == v` for every value without a `float`, a repeated key or an
    `int` of more than 4300 digits, when the levels of nesting free cover its depth. -/
theorem loads_dumps {v : Value} (hv : Exact v) {limit : Nat} (hd : depth v ≤ limit) :
    loads limit (dumps v) = .ok v := by
  obtain ⟨c, cs, hc, hw, -, ha⟩ := dumpsChars_head hv
  obtain ⟨p, hp⟩ := scanValue_dumpsChars (dumpsChars v) hv limit hd [] 0 rfl
  have hbom : c ≠ Char.ofNat 0xfeff := by rintro rfl; simp at ha
  have hd : (dumps v).toList = c :: cs := hc
  rw [List.append_nil, hc] at hp
  simp only [loads, hd, List.head?_cons, Option.some.injEq, hbom, if_false, skipWs_of_not_ws hw,
    hp]
  rfl

theorem dumpsError_items_of_forall {limit : Nat} :
    ∀ {xs : List Value}, (∀ x ∈ xs, dumpsError limit x = none) → dumpsError.items limit xs = none
  | [], _ => rfl
  | x :: _, h => by
    simp [dumpsError.items, h x (.head _), dumpsError_items_of_forall fun y hy => h y (.tail _ hy)]

theorem dumpsError_pairs_of_forall {limit : Nat} :
    ∀ {kvs : List (String × Value)}, (∀ kv ∈ kvs, dumpsError limit kv.2 = none) →
      dumpsError.pairs limit kvs = none
  | [], _ => rfl
  | kv :: _, h => by
    simp [dumpsError.pairs, h kv (.head _),
      dumpsError_pairs_of_forall fun y hy => h y (.tail _ hy)]

/-- `json.dumps` raises nothing on an `Exact` value when the levels of nesting free cover its
    depth. -/
theorem dumpsError_eq_none {v : Value} (hv : Exact v) {limit : Nat} (hd : depth v ≤ limit) :
    dumpsError limit v = none := by
  induction hv generalizing limit with
  | @int i hi => exact if_neg (Nat.not_lt.2 hi)
  | @list xs _ ih =>
    simp only [depth] at hd
    obtain ⟨l, rfl⟩ : ∃ l, limit = l + 1 := ⟨limit - 1, by omega⟩
    exact dumpsError_items_of_forall fun x hx => ih x hx ((depth_le_items hx).trans (by omega))
  | @dict kvs _ _ ih =>
    simp only [depth] at hd
    obtain ⟨l, rfl⟩ : ∃ l, limit = l + 1 := ⟨limit - 1, by omega⟩
    exact dumpsError_pairs_of_forall fun kv hkv => ih kv hkv ((depth_le_pairs hkv).trans (by omega))
  | _ => rfl

-- ════════════════════════════════════════════════════════════════════════
-- UTF-8
-- ════════════════════════════════════════════════════════════════════════

theorem encodeUtf8_cons (c : Char) (cs : List Char) :
    encodeUtf8 (String.mk (c :: cs)) = encodeUtf8 (String.mk [c]) ++ encodeUtf8 (String.mk cs) := by
  simp [encodeUtf8]

section
variable (raw rest : List UInt8) (pos : Nat) (acc : List Char)

theorem utf8Go_ascii {b : UInt8} (h : b.toNat < 0x80) (cp start lo hi : Nat) :
    utf8Go raw (b :: rest) pos 0 cp start lo hi acc =
      utf8Go raw rest (pos + 1) 0 0 0 0 0 (Char.ofNat b.toNat :: acc) := by
  simp [utf8Go, utf8Lead, h]

theorem utf8Go_lead {b : UInt8} {need lo hi : Nat} (h : utf8Lead b.toNat = some (need + 1, lo, hi))
    (cp start lo' hi' : Nat) :
    utf8Go raw (b :: rest) pos 0 cp start lo' hi' acc =
      utf8Go raw rest (pos + 1) (need + 1) (leadBits b.toNat (need + 1)) pos lo hi acc := by
  simp [utf8Go, h]

theorem utf8Go_cont {b : UInt8} {need cp start lo hi : Nat} (h : lo ≤ b.toNat ∧ b.toNat ≤ hi) :
    utf8Go raw (b :: rest) pos (need + 2) cp start lo hi acc =
      utf8Go raw rest (pos + 1) (need + 1) (cp * 64 + b.toNat % 64) start 0x80 0xBF acc := by
  simp [utf8Go, h]

theorem utf8Go_last {b : UInt8} {cp start lo hi : Nat} (h : lo ≤ b.toNat ∧ b.toNat ≤ hi) :
    utf8Go raw (b :: rest) pos 1 cp start lo hi acc =
      utf8Go raw rest (pos + 1) 0 0 0 0 0 (Char.ofNat (cp * 64 + b.toNat % 64) :: acc) := by
  simp [utf8Go, h]

/-- A two-byte sequence starts with a lead byte in `0xC2..0xDF`. -/
theorem utf8Lead_two {n : Nat} (h₁ : 0x80 ≤ n) (h₂ : n < 0x800) :
    utf8Lead (0xC0 + n / 64) = some (1, 0x80, 0xBF) := by
  unfold utf8Lead
  rw [if_neg (by omega), if_neg (by omega), if_pos (by omega)]

/-- The lead bytes of three-byte sequences: after `0xE0` the next byte is at least `0xA0`,
    which no shorter sequence could be, and after `0xED` at most `0x9F`, which no surrogate
    is. -/
theorem utf8Lead_E : ∀ q < 16, utf8Lead (0xE0 + q) =
    some (2, if q = 0 then 0xA0 else 0x80, if q = 13 then 0x9F else 0xBF) := by
  decide

/-- The lead bytes of four-byte sequences: after `0xF0` the next byte is at least `0x90`,
    and after `0xF4` at most `0x8F`, beyond which no code point lies. -/
theorem utf8Lead_F : ∀ q < 5, utf8Lead (0xF0 + q) =
    some (3, if q = 0 then 0x90 else 0x80, if q = 4 then 0x8F else 0xBF) := by
  decide

theorem utf8Lead_three {n : Nat} (h₁ : 0x800 ≤ n) (h₂ : n < 0x10000)
    (hs : n < 0xd800 ∨ 0xdfff < n) : ∃ lo hi, utf8Lead (0xE0 + n / 4096) = some (2, lo, hi) ∧
      lo ≤ 0x80 + n / 64 % 64 ∧ 0x80 + n / 64 % 64 ≤ hi := by
  refine ⟨_, _, utf8Lead_E _ (by omega), ?_, ?_⟩ <;> split_ifs <;> omega

theorem utf8Lead_four {n : Nat} (h₁ : 0x10000 ≤ n) (h₂ : n < 0x110000) :
    ∃ lo hi, utf8Lead (0xF0 + n / 262144) = some (3, lo, hi) ∧
      lo ≤ 0x80 + n / 4096 % 64 ∧ 0x80 + n / 4096 % 64 ≤ hi := by
  refine ⟨_, _, utf8Lead_F _ (by omega), ?_, ?_⟩ <;> split_ifs <;> omega

/-- The decoder reads the bytes of one character back as that character. -/
theorem utf8Go_encodeUtf8_char (c : Char) :
    ∃ k, utf8Go raw (encodeUtf8 (String.mk [c]) ++ rest) pos 0 0 0 0 0 acc =
      utf8Go raw rest (pos + k) 0 0 0 0 0 (c :: acc) := by
  have hv : c.toNat < 0xd800 ∨ (0xdfff < c.toNat ∧ c.toNat < 0x110000) := c.valid
  have byte_toNat : ∀ {x}, x < 256 → (UInt8.ofNat x).toNat = x := UInt8.toNat_ofNat_of_lt
  simp only [encodeUtf8, String.toList, List.flatMap_cons, List.flatMap_nil, List.append_nil]
  split_ifs with h₁ h₂ h₃
  · refine ⟨1, ?_⟩
    rw [List.map_singleton, List.singleton_append,
      utf8Go_ascii raw rest pos acc (by rw [byte_toNat (by omega)]; exact h₁),
      byte_toNat (by omega), Char.ofNat_toNat]
  · refine ⟨2, ?_⟩
    simp only [List.map_cons, List.map_nil, List.cons_append, List.nil_append]
    rw [utf8Go_lead raw _ pos acc (by rw [byte_toNat (by omega)]; exact utf8Lead_two (by omega) h₂),
      utf8Go_last raw rest _ acc (by rw [byte_toNat (by omega)]; omega),
      byte_toNat (by omega), byte_toNat (by omega)]
    have hn : leadBits (0xC0 + c.toNat / 64) 1 * 64 + (0x80 + c.toNat % 64) % 64 = c.toNat := by
      simp only [leadBits]; omega
    rw [hn, Char.ofNat_toNat]
  · refine ⟨3, ?_⟩
    obtain ⟨lo, hi, hl, hlo, hhi⟩ := utf8Lead_three (Nat.le_of_not_lt h₂) h₃ (hv.imp_right And.left)
    simp only [List.map_cons, List.map_nil, List.cons_append, List.nil_append]
    rw [utf8Go_lead raw _ pos acc (by rw [byte_toNat (by omega)]; exact hl),
      utf8Go_cont raw _ _ acc (by rw [byte_toNat (by omega)]; exact ⟨hlo, hhi⟩),
      utf8Go_last raw rest _ acc (by rw [byte_toNat (by omega)]; omega),
      byte_toNat (by omega), byte_toNat (by omega), byte_toNat (by omega)]
    have hn : (leadBits (0xE0 + c.toNat / 4096) 2 * 64 + (0x80 + c.toNat / 64 % 64) % 64) * 64 +
        (0x80 + c.toNat % 64) % 64 = c.toNat := by
      simp only [leadBits]; omega
    rw [hn, Char.ofNat_toNat]
  · refine ⟨4, ?_⟩
    have h₄ : c.toNat < 0x110000 := hv.elim (fun h => by omega) And.right
    obtain ⟨lo, hi, hl, hlo, hhi⟩ := utf8Lead_four (Nat.le_of_not_lt h₃) h₄
    simp only [List.map_cons, List.map_nil, List.cons_append, List.nil_append]
    rw [utf8Go_lead raw _ pos acc (by rw [byte_toNat (by omega)]; exact hl),
      utf8Go_cont raw _ _ acc (by rw [byte_toNat (by omega)]; exact ⟨hlo, hhi⟩),
      utf8Go_cont raw _ _ acc (by rw [byte_toNat (by omega)]; omega),
      utf8Go_last raw rest _ acc (by rw [byte_toNat (by omega)]; omega),
      byte_toNat (by omega), byte_toNat (by omega), byte_toNat (by omega), byte_toNat (by omega)]
    have hn : ((leadBits (0xF0 + c.toNat / 262144) 3 * 64 + (0x80 + c.toNat / 4096 % 64) % 64) * 64 +
        (0x80 + c.toNat / 64 % 64) % 64) * 64 + (0x80 + c.toNat % 64) % 64 = c.toNat := by
      simp only [leadBits]; omega
    rw [hn, Char.ofNat_toNat]

end

/-- The bytes of `str.encode('utf-8')` decode back to the string. -/
theorem decodeUtf8_encodeUtf8 (s : String) : decodeUtf8 (encodeUtf8 s) = .ok s := by
  have key : ∀ (cs : List Char) (pos : Nat) (acc : List Char),
      utf8Go (encodeUtf8 s) (encodeUtf8 (String.mk cs)) pos 0 0 0 0 0 acc =
        .ok (String.mk (acc.reverse ++ cs)) := by
    intro cs
    induction cs with
    | nil => intro pos acc; simp [encodeUtf8, utf8Go]
    | cons c cs ih =>
      intro pos acc
      obtain ⟨k, hk⟩ := utf8Go_encodeUtf8_char (encodeUtf8 s) (encodeUtf8 (String.mk cs)) pos acc c
      rw [encodeUtf8_cons, hk, ih]
      simp
  simpa using key s.data 0 []

end Proxxy.Python.Json

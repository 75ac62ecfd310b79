import Mathlib.Data.List.Basic
import Mathlib.Data.List.DropRight
import Mathlib.Data.Nat.Digits

/-! # Python `str` operations

The SIWA code handles messages as Python strings and calls a handful of `str`
methods on them. A string is modelled as its list of characters (`Str`), and
each method the code calls is a function on that list: `split("\n")` is
`List.splitOn`, `"\n".join` is `List.intercalate`, `strip()` drops Python
whitespace at both ends, `partition(": ")` splits at the first separator, and
`int(...)` and `str(...)` convert between decimal text and `Int`.

The model follows CPython 3.9.0 to 3.9.13 and 3.10.0 to 3.10.6: Unicode 13.0,
and no limit on the number of digits `int()` reads or `str()` writes. Lean
characters are Unicode scalar values, so strings holding lone surrogates, which
a Python `str` can hold, are outside the model. `lower()` follows Python on
ASCII text; the non-ASCII letters it also maps are not modelled. `int()` reads
every Unicode decimal digit, as Python does. -/

namespace Siwa.PyStr

/-- A Python `str`, as its sequence of characters. -/
abbrev Str := List Char

/-- A raised Python exception, by its class and by the text `str(e)` gives. -/
inductive PyException
  | valueError (msg : Str)
  | indexError (msg : Str)
  /-- An exception of another class, raised by a collaborator. -/
  | other (cls msg : Str)
deriving DecidableEq, Repr

/-- `str(e)`. -/
def PyException.str : PyException → Str
  | .valueError msg | .indexError msg | .other _ msg => msg

/-! ## Lines -/

/-- `"\n".join(lines)`. -/
def joinLines (lines : List Str) : Str := List.intercalate ['\n'] lines

/-- `message.split("\n")`. -/
def splitLines (message : Str) : List Str := message.splitOn '\n'

theorem modifyHead_append {α : Type} (f : α → α) {l₁ : List α} (h : l₁ ≠ []) (l₂ : List α) :
    (l₁ ++ l₂).modifyHead f = l₁.modifyHead f ++ l₂ := by
  cases l₁ with
  | nil => exact absurd rfl h
  | cons a l => rfl

/-- Splitting at a newline between two texts splits each of them. -/
theorem splitLines_append_newline (a b : Str) :
    splitLines (a ++ '\n' :: b) = splitLines a ++ splitLines b := by
  unfold splitLines
  induction a with
  | nil => simp [List.splitOn]
  | cons c a ih =>
    simp only [List.cons_append, List.splitOn, List.splitOnP_cons] at ih ⊢
    split
    · simp [ih]
    · rw [ih, modifyHead_append _ (List.splitOnP_ne_nil _ _)]

theorem splitLines_ne_nil (a : Str) : splitLines a ≠ [] := List.splitOnP_ne_nil _ _

/-- A text without a newline is one line. -/
theorem splitLines_of_not_mem {a : Str} (h : '\n' ∉ a) : splitLines a = [a] :=
  List.splitOnP_eq_single _ _ fun c hc hp => h (by simpa [eq_of_beq hp] using hc)

/-- Reading the lines of joined texts reads the lines of each text. -/
theorem splitLines_joinLines (a : Str) (ls : List Str) :
    splitLines (joinLines (a :: ls)) = (a :: ls).flatMap splitLines := by
  induction ls generalizing a with
  | nil => simp [joinLines, List.intercalate]
  | cons b ls ih =>
    have hj : joinLines (a :: b :: ls) = a ++ '\n' :: joinLines (b :: ls) := by
      simp [joinLines, List.intercalate, List.intersperse_cons_cons]
    rw [hj, splitLines_append_newline, ih]
    simp

theorem joinLines_splitLines (a : Str) : joinLines (splitLines a) = a :=
  List.intercalate_splitOn a '\n'

@[simp] theorem joinLines_nil : joinLines [] = [] := rfl

/-- A piece of a split holds no newline. -/
theorem not_mem_of_mem_splitLines {m l : Str} (h : l ∈ splitLines m) : '\n' ∉ l := by
  induction m generalizing l with
  | nil => simp_all [splitLines, List.splitOn]
  | cons c m ih =>
    unfold splitLines at h ih
    simp only [List.splitOn, List.splitOnP_cons] at h ih
    split at h
    next =>
      rcases List.mem_cons.1 h with rfl | h
      · exact List.not_mem_nil _
      · exact ih h
    next hc =>
      obtain ⟨a, rest, hm⟩ := List.exists_cons_of_ne_nil (List.splitOnP_ne_nil (· == '\n') m)
      rw [hm] at h ih
      rcases List.mem_cons.1 h with rfl | h
      · rw [List.mem_cons, not_or]
        exact ⟨fun h' => hc (by simp [← h']), ih (List.mem_cons_self _ _)⟩
      · exact ih (List.mem_cons_of_mem _ h)

/-! ## Whitespace, prefixes and separators -/

/-- `c.isspace()`: the characters Python treats as whitespace. -/
def isPySpace (c : Char) : Bool :=
  let n := c.toNat
  (0x09 ≤ n && n ≤ 0x0D) || (0x1C ≤ n && n ≤ 0x20) || n == 0x85 || n == 0xA0 ||
    n == 0x1680 || (0x2000 ≤ n && n ≤ 0x200A) || n == 0x2028 || n == 0x2029 ||
    n == 0x202F || n == 0x205F || n == 0x3000

/-- `s.strip()`. -/
def pyStrip (s : Str) : Str := (s.dropWhile isPySpace).rdropWhile isPySpace

/-- The value of `x or None` for a string `x`: absent when empty. -/
def nonEmpty (s : Str) : Option Str := if s = [] then none else some s

/-- `s.lower()`. -/
def pyLower (s : Str) : Str := s.map Char.toLower

/-- `s.partition(": ")` when `": " in s`: the text before the first separator and
the text after it; `none` when the separator does not occur. -/
def splitField : Str → Option (Str × Str)
  | [] => none
  | c :: rest =>
    if c = ':' ∧ rest.head? = some ' ' then some ([], rest.tail)
    else (splitField rest).map fun p => (c :: p.1, p.2)

/-- A key without a colon is read back from `key: value`. -/
theorem splitField_key {k : Str} (hk : ':' ∉ k) (v : Str) :
    splitField (k ++ ':' :: ' ' :: v) = some (k, v) := by
  induction k with
  | nil => simp [splitField]
  | cons c k ih =>
    have hc : c ≠ ':' := fun h => hk (h ▸ List.mem_cons_self _ _)
    simp [splitField, hc, ih (fun h => hk (List.mem_cons_of_mem _ h))]

@[simp] theorem splitField_nil : splitField [] = none := rfl

theorem dropWhile_of_forall {p : Char → Bool} {s : Str} (h : ∀ c ∈ s, p c = false) :
    s.dropWhile p = s := by
  cases s with
  | nil => rfl
  | cons c s => simp [List.dropWhile, h c (List.mem_cons_self _ _)]

/-- Text without Python whitespace is its own strip. -/
theorem pyStrip_of_forall {s : Str} (h : ∀ c ∈ s, isPySpace c = false) : pyStrip s = s := by
  rw [pyStrip, dropWhile_of_forall h, List.rdropWhile, dropWhile_of_forall, List.reverse_reverse]
  simpa using h

@[simp] theorem pyStrip_nil : pyStrip [] = [] := rfl

/-- `s.strip().strip() == s.strip()`: a stripped text starts with the first
character the left strip kept. -/
theorem pyStrip_pyStrip (s : Str) : pyStrip (pyStrip s) = pyStrip s := by
  have hd : (pyStrip s).dropWhile isPySpace = pyStrip s := by
    unfold pyStrip
    cases hy : s.dropWhile isPySpace with
    | nil => rfl
    | cons c y =>
      have hc : isPySpace c = false := by
        simpa [hy] using List.head_dropWhile_not isPySpace s (by simp [hy])
      have hne : (c :: y).rdropWhile isPySpace ≠ [] := fun h =>
        by simpa [hc] using List.rdropWhile_eq_nil_iff.1 h c (List.mem_cons_self _ _)
      have hp : (c :: y).rdropWhile isPySpace <+: c :: y := List.rdropWhile_prefix _ _
      obtain ⟨t, ht⟩ := hp
      obtain ⟨a, w, hw⟩ := List.exists_cons_of_ne_nil hne
      rw [hw] at ht ⊢
      cases (List.cons.inj ht).1
      simp [hc]
  rw [pyStrip, hd, pyStrip, List.rdropWhile_idempotent]


@[simp] theorem nonEmpty_nil : nonEmpty [] = none := rfl

theorem nonEmpty_eq_some {s t : Str} : nonEmpty s = some t ↔ s ≠ [] ∧ s = t := by
  unfold nonEmpty
  split <;> simp_all

/-! ## Integers -/

/-- Is `c` one of the ASCII digits `0123456789`? -/
def isAsciiDigit (c : Char) : Bool := 48 ≤ c.toNat && c.toNat ≤ 57

/-- The value of an ASCII digit, the only digits `fromisoformat` reads. -/
def digitValue (c : Char) : Option Nat := if isAsciiDigit c then some (c.toNat - 48) else none

/-- The code points of the Unicode decimal digits zero (general category `Nd`,
Unicode 13.0); the digits of a script are the ten code points from its zero. -/
def decimalZeros : List Nat :=
  [0x30, 0x660, 0x6F0, 0x7C0, 0x966, 0x9E6, 0xA66, 0xAE6, 0xB66, 0xBE6, 0xC66, 0xCE6, 0xD66,
    0xDE6, 0xE50, 0xED0, 0xF20, 0x1040, 0x1090, 0x17E0, 0x1810, 0x1946, 0x19D0, 0x1A80, 0x1A90,
    0x1B50, 0x1BB0, 0x1C40, 0x1C50, 0xA620, 0xA8D0, 0xA900, 0xA9D0, 0xA9F0, 0xAA50, 0xABF0,
    0xFF10, 0x104A0, 0x10D30, 0x11066, 0x110F0, 0x11136, 0x111D0, 0x112F0, 0x11450, 0x114D0,
    0x11650, 0x116C0, 0x11730, 0x118E0, 0x11950, 0x11C50, 0x11D50, 0x11DA0, 0x16A60, 0x16B50,
    0x1D7CE, 0x1D7D8, 0x1D7E2, 0x1D7EC, 0x1D7F6, 0x1E140, 0x1E2F0, 0x1E950, 0x1FBF0]

/-- `unicodedata.decimal(c)`: `int()` reads a decimal digit of any script as the
ASCII digit of its value. -/
def decimalValue (c : Char) : Option Nat :=
  (decimalZeros.find? fun z => z ≤ c.toNat && c.toNat < z + 10).map (c.toNat - ·)

/-- `c.isdecimal()`. -/
def isDecimal (c : Char) : Bool := (decimalValue c).isSome

/-- The digits after the first one of `int(s)`, each possibly preceded by a
single underscore, accumulated onto `acc`. -/
def digitsFrom (acc : Nat) : Str → Option Nat
  | [] => some acc
  | c :: rest =>
    if c = '_' then
      match rest with
      | d :: rest' => (decimalValue d).bind fun v => digitsFrom (acc * 10 + v) rest'
      | [] => none
    else (decimalValue c).bind fun v => digitsFrom (acc * 10 + v) rest

/-- An unsigned decimal literal: a digit, then `digitsFrom`. -/
def parseDigits : Str → Option Nat
  | [] => none
  | c :: rest => (decimalValue c).bind fun v => digitsFrom v rest

/-- A decimal literal with an optional sign. -/
def parseSigned : Str → Option Int
  | [] => none
  | c :: rest =>
    if c = '-' then (parseDigits rest).map fun n => -(n : Int)
    else if c = '+' then (parseDigits rest).map fun n => (n : Int)
    else (parseDigits (c :: rest)).map fun n => (n : Int)

/-- The text of the `ValueError` that `int(s)` raises. Python quotes `repr(s)`;
this quotes `s` itself, which agrees with it on text without quotes,
backslashes or unprintable characters. -/
def intError (s : Str) : Str :=
  "invalid literal for int() with base 10: '".toList ++ s ++ ['\'']

/-- `repr(s)` in the text of an error. Python quotes with `'` and escapes quotes,
backslashes and unprintable characters; this quotes `s` as it is, which agrees
with it on text without those. -/
def pyRepr (s : Str) : Str := '\'' :: s ++ ['\'']

/-- `int(s)`: whitespace around an optionally signed decimal literal. -/
def pyInt (s : Str) : Except PyException Int :=
  match parseSigned (pyStrip s) with
  | some n => .ok n
  | none => .error (.valueError (intError s))

/-- `str(n)` for an `int`. -/
def pyStr (n : Int) : Str :=
  if n < 0 then '-' :: Nat.toDigits 10 n.natAbs else Nat.toDigits 10 n.natAbs

/-- A decimal digit lies in the run of ten that starts at a zero of the table. -/
theorem decimalValue_eq_some {c : Char} {v : Nat} (h : decimalValue c = some v) :
    ∃ z ∈ decimalZeros, z ≤ c.toNat ∧ c.toNat < z + 10 ∧ v = c.toNat - z := by
  obtain ⟨z, hz, rfl⟩ := Option.map_eq_some'.1 h
  have hp := List.find?_some hz
  simp only [Bool.and_eq_true, decide_eq_true_eq] at hp
  exact ⟨z, List.mem_of_find?_eq_some hz, hp.1, hp.2, rfl⟩

/-- U+0663, ARABIC-INDIC DIGIT THREE, is three past the zero U+0660. -/
example : decimalValue '٣' = some 3 := by decide

theorem decimalValue_digitChar {d : Nat} (h : d < 10) : decimalValue (Nat.digitChar d) = some d := by
  have : ∀ d < 10, decimalValue (Nat.digitChar d) = some d := by decide
  exact this d h

theorem isDecimal_digitChar {d : Nat} (h : d < 10) : isDecimal (Nat.digitChar d) = true := by
  simp [isDecimal, decimalValue_digitChar h]

theorem digitsFrom_cons_digit {c : Char} {v : Nat} (hc : decimalValue c = some v) (acc : Nat)
    (rest : Str) : digitsFrom acc (c :: rest) = digitsFrom (acc * 10 + v) rest := by
  have hu : c ≠ '_' := by
    rintro rfl
    rw [show decimalValue '_' = none by decide] at hc
    cases hc
  cases rest <;> simp [digitsFrom, hu, hc]

/-- Digits followed by more text are read one after the other. -/
theorem digitsFrom_append {cs : Str} (h : ∀ c ∈ cs, isDecimal c = true) (acc : Nat) (rest : Str) :
    digitsFrom acc (cs ++ rest) = (digitsFrom acc cs).bind fun a => digitsFrom a rest := by
  induction cs generalizing acc with
  | nil => rfl
  | cons c cs ih =>
    obtain ⟨v, hv⟩ := Option.isSome_iff_exists.1 (h c (List.mem_cons_self _ _))
    rw [List.cons_append, digitsFrom_cons_digit hv, digitsFrom_cons_digit hv]
    exact ih (fun c hc => h c (List.mem_cons_of_mem _ hc)) _

theorem toDigitsCore_append (fuel n : Nat) (ds : Str) :
    Nat.toDigitsCore 10 fuel n ds = Nat.toDigitsCore 10 fuel n [] ++ ds := by
  induction fuel generalizing n ds with
  | zero => rfl
  | succ fuel ih =>
    simp only [Nat.toDigitsCore]
    split
    · rfl
    · rw [ih _ (_ :: ds), ih _ [_]]
      simp

/-- Any fuel above the number gives the same digits. -/
theorem toDigitsCore_fuel {fuel n : Nat} (h : n < fuel) (ds : Str) :
    Nat.toDigitsCore 10 fuel n ds = Nat.toDigitsCore 10 (n + 1) n ds := by
  induction n using Nat.strong_induction_on generalizing fuel ds with
  | _ n ih =>
    obtain ⟨f, rfl⟩ : ∃ f, fuel = f + 1 := ⟨fuel - 1, by omega⟩
    simp only [Nat.toDigitsCore]
    split
    · rfl
    · have hn : 10 ≤ n := by omega
      rw [ih _ (by omega) (by omega), ih (n / 10) (by omega) (show n / 10 < n by omega)]

/-- The last digit of a number of two or more digits comes after the others. -/
theorem toDigits_of_ge {n : Nat} (h : 10 ≤ n) :
    Nat.toDigits 10 n = Nat.toDigits 10 (n / 10) ++ [Nat.digitChar (n % 10)] := by
  have hq : n / 10 ≠ 0 := by omega
  rw [Nat.toDigits, Nat.toDigitsCore, if_neg hq, toDigitsCore_append,
    toDigitsCore_fuel (by omega), Nat.toDigits]

theorem toDigits_of_lt {n : Nat} (h : n < 10) : Nat.toDigits 10 n = [Nat.digitChar n] := by
  simp [Nat.toDigits, Nat.toDigitsCore, Nat.div_eq_of_lt h, Nat.mod_eq_of_lt h]

theorem isDecimal_of_mem_toDigits (n : Nat) : ∀ c ∈ Nat.toDigits 10 n, isDecimal c = true := by
  induction n using Nat.strong_induction_on with
  | _ n ih =>
    rcases Nat.lt_or_ge n 10 with h | h
    · simp [toDigits_of_lt h, isDecimal_digitChar h]
    · rw [toDigits_of_ge h]
      intro c hc
      rcases List.mem_append.mp hc with hc | hc
      · exact ih _ (by omega) c hc
      · simp only [List.mem_singleton] at hc
        exact hc ▸ isDecimal_digitChar (Nat.mod_lt _ (by omega))

theorem toDigits_ne_nil (n : Nat) : Nat.toDigits 10 n ≠ [] := by
  rcases Nat.lt_or_ge n 10 with h | h
  · simp [toDigits_of_lt h]
  · simp [toDigits_of_ge h]

/-- A digit after a literal is read as the next decimal place. -/
theorem parseDigits_append_digit {cs : Str} (hne : cs ≠ []) (h : ∀ c ∈ cs, isDecimal c = true)
    {d : Char} {v : Nat} (hd : decimalValue d = some v) :
    parseDigits (cs ++ [d]) = (parseDigits cs).map (· * 10 + v) := by
  obtain ⟨c, cs, rfl⟩ := List.exists_cons_of_ne_nil hne
  obtain ⟨u, hu⟩ := Option.isSome_iff_exists.1 (h c (List.mem_cons_self _ _))
  simp only [List.cons_append, parseDigits, hu, Option.some_bind]
  rw [digitsFrom_append (fun x hx => h x (List.mem_cons_of_mem _ hx))]
  cases digitsFrom u cs <;> simp [digitsFrom_cons_digit hd, digitsFrom.eq_1]

theorem parseDigits_toDigits (n : Nat) : parseDigits (Nat.toDigits 10 n) = some n := by
  induction n using Nat.strong_induction_on with
  | _ n ih =>
    rcases Nat.lt_or_ge n 10 with h | h
    · simp [toDigits_of_lt h, parseDigits, decimalValue_digitChar h, digitsFrom]
    · have hm : n % 10 < 10 := Nat.mod_lt _ (by omega)
      rw [toDigits_of_ge h, parseDigits_append_digit (toDigits_ne_nil _) (isDecimal_of_mem_toDigits _)
        (decimalValue_digitChar hm), ih _ (by omega)]
      simp [Nat.div_add_mod']


/-- The runs of decimal digits fall between the whitespace code points. -/
theorem decimalZeros_between_spaces : ∀ z ∈ decimalZeros, z = 0x30 ∨
    (0x660 ≤ z ∧ z + 10 ≤ 0x1680) ∨ (0x1680 < z ∧ z + 10 ≤ 0x2000) ∨ 0x3000 < z := by
  decide

theorem isPySpace_of_isDecimal {c : Char} (h : isDecimal c = true) : isPySpace c = false := by
  obtain ⟨v, hv⟩ := Option.isSome_iff_exists.1 h
  obtain ⟨z, hz, hlo, hhi, -⟩ := decimalValue_eq_some hv
  have := decimalZeros_between_spaces z hz
  simp only [isPySpace, Bool.or_eq_false_iff, Bool.and_eq_false_iff, decide_eq_false_iff_not,
    beq_eq_false_iff_ne]
  omega

theorem parseSigned_pyStr (n : Int) : parseSigned (pyStr n) = some n := by
  obtain ⟨c, cs, hcs⟩ := List.exists_cons_of_ne_nil (toDigits_ne_nil n.natAbs)
  have hc : isDecimal c = true := isDecimal_of_mem_toDigits _ c (hcs ▸ List.mem_cons_self _ _)
  have hsign : c ≠ '-' ∧ c ≠ '+' := by
    constructor <;> rintro rfl <;> exact absurd hc (by decide)
  unfold pyStr
  split
  · simp [parseSigned, parseDigits_toDigits, Int.ofNat_natAbs_of_nonpos (Int.le_of_lt ‹n < 0›)]
  · rw [hcs]
    simp only [parseSigned, hsign.1, hsign.2, if_false, ← hcs, parseDigits_toDigits]
    simp [Int.natAbs_of_nonneg (Int.not_lt.mp ‹¬n < 0›)]

theorem not_isPySpace_of_mem_pyStr {n : Int} : ∀ x ∈ pyStr n, isPySpace x = false := by
  have hd := isDecimal_of_mem_toDigits n.natAbs
  unfold pyStr
  split
  · rintro x (_ | ⟨_, hx⟩)
    · rfl
    · exact isPySpace_of_isDecimal (hd x hx)
  · exact fun x hx => isPySpace_of_isDecimal (hd x hx)

/-- `int(str(n)) == n`. -/
theorem pyInt_pyStr (n : Int) : pyInt (pyStr n) = .ok n := by
  simp [pyInt, pyStrip_of_forall not_isPySpace_of_mem_pyStr, parseSigned_pyStr]

theorem not_mem_pyStr {x : Char} (hx : isDecimal x = false) (hm : x ≠ '-') (n : Int) :
    x ∉ pyStr n := by
  intro h
  unfold pyStr at h
  split at h
  · rcases List.mem_cons.mp h with h | h
    · exact hm h
    · simp [isDecimal_of_mem_toDigits _ x h] at hx
  · simp [isDecimal_of_mem_toDigits _ x h] at hx

end Siwa.PyStr

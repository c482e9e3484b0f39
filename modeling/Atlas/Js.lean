import Mathlib.Algebra.Order.Ring.Int
import Mathlib.Data.List.DropRight
import Mathlib.Tactic.Common
import Atlas.Lib.Json
import Atlas.Lib.LowerCase

/-!
# Atlas.Js

What the model uses of JavaScript's own library: numbers, instants and
strings.

`undefined` and `null` are both `none`: no modelled function tells them apart.
An `Option` that the source tests for truthiness goes through `truthy`, since
the empty string counts as absent there.
-/

namespace Atlas.Js

open StoreKit

/-! ## Numbers -/

/-- A `number` in arithmetic.  What is left of a result once it is rounded is in
`Atlas.Double`. -/
inductive Number where
  | nan
  | posInfinity
  | negInfinity
  | of (q : Rat)
deriving DecidableEq

namespace Number

instance : NatCast Number := ⟨fun n => .of n⟩

instance (n : Nat) : OfNat Number n := ⟨.of n⟩

/-- `a - 1`. -/
def pred : Number → Number
  | .of q => .of (q - 1)
  | a => a

/-- An infinity with the sign of `q`; `0 * Infinity` is `NaN`. -/
def infinity (q : Rat) : Number :=
  if q = 0 then .nan else if 0 < q then .posInfinity else .negInfinity

/-- `a * b`. -/
def mul : Number → Number → Number
  | .of p, .of q => .of (p * q)
  | .of p, .posInfinity | .posInfinity, .of p => infinity p
  | .of p, .negInfinity | .negInfinity, .of p => infinity (-p)
  | .posInfinity, .posInfinity | .negInfinity, .negInfinity => .posInfinity
  | .posInfinity, .negInfinity | .negInfinity, .posInfinity => .negInfinity
  | .nan, _ | _, .nan => .nan

/-- `Math.min(a, b)`. -/
def min : Number → Number → Number
  | .nan, _ | _, .nan => .nan
  | .negInfinity, _ | _, .negInfinity => .negInfinity
  | .posInfinity, b => b
  | a, .posInfinity => a
  | .of p, .of q => .of (if p ≤ q then p else q)

/-- `a + b`. -/
def add : Number → Number → Number
  | .of p, .of q => .of (p + q)
  | .nan, _ | _, .nan => .nan
  | .posInfinity, .negInfinity | .negInfinity, .posInfinity => .nan
  | .posInfinity, _ | _, .posInfinity => .posInfinity
  | .negInfinity, _ | _, .negInfinity => .negInfinity

/-- `a / b`. -/
def div : Number → Number → Number
  | .of p, .of q => if q = 0 then infinity p else .of (p / q)
  | .of _, .posInfinity | .of _, .negInfinity => .of 0
  | .posInfinity, .of q => infinity (if q = 0 then 1 else q)
  | .negInfinity, .of q => infinity (if q = 0 then -1 else -q)
  | _, _ => .nan

/-- `Math.ceil(a)`. -/
def ceil : Number → Number
  | .of q => .of q.ceil
  | a => a

/-- `a < b`, false where `NaN` is involved. -/
def lt : Number → Number → Bool
  | .of p, .of q => p < q
  | .negInfinity, .of _ | .negInfinity, .posInfinity | .of _, .posInfinity => true
  | _, _ => false

end Number

/-- What a sum, a product, … of numbers comes to. -/
structure Arithmetic where
  pred : Number → Number
  add : Number → Number → Number
  mul : Number → Number → Number
  div : Number → Number → Number

/-- Nothing is rounded. -/
def Arithmetic.exact : Arithmetic := ⟨Number.pred, Number.add, Number.mul, Number.div⟩

@[simp] theorem Arithmetic.exact_pred (a : Number) : exact.pred a = a.pred := rfl

@[simp] theorem Arithmetic.exact_mul (a b : Number) : exact.mul a b = a.mul b := rfl

/-! ## Strings -/

/-- The value of an optional string, unless it is absent or empty. -/
def truthy : Option String → Option String
  | some s => if s = "" then none else some s
  | none => none

/-- Only the empty string is a value that counts as absent. -/
theorem truthy_of_ne {o : Option String} (h : o ≠ some "") : truthy o = o := by
  cases o with
  | none => rfl
  | some s =>
      have hs : s ≠ "" := fun he => h (congrArg some he)
      simp [truthy, hs]

/-- A text that counts as true is there as it is. -/
theorem eq_of_truthy {o : Option String} {s : String} (h : truthy o = some s) : o = some s := by
  cases o with
  | none => cases h
  | some t =>
      by_cases hempty : t = ""
      · simp [truthy, hempty] at h
      · simpa [truthy, hempty] using h

/-- The code points of white space and line terminators. -/
def whiteSpaceCodes : List Nat :=
  [0x09, 0x0a, 0x0b, 0x0c, 0x0d, 0x20, 0xa0, 0x1680, 0x2028, 0x2029, 0x202f, 0x205f, 0x3000,
    0xfeff] ++ List.range' 0x2000 11

def isWhiteSpace (c : Char) : Bool := whiteSpaceCodes.contains c.toNat

/-- `s.trim()`. -/
def trim (s : String) : String :=
  String.ofList ((s.toList.dropWhile isWhiteSpace).reverse.dropWhile isWhiteSpace).reverse

/-- `s.length`: the number of UTF-16 code units. -/
def length (s : String) : Nat :=
  (s.toList.map fun c => if c.toNat < 0x10000 then 1 else 2).sum

/-- A string has no more characters than code units. -/
theorem length_le (s : String) : s.length ≤ length s := by
  have hsum : ∀ cs : List Char,
      cs.length ≤ (cs.map fun c => if c.toNat < 0x10000 then 1 else 2).sum := by
    intro cs
    induction cs with
    | nil => exact Nat.le_refl 0
    | cons c cs ih =>
        rw [List.map_cons, List.sum_cons, List.length_cons]
        split <;> omega
  exact hsum s.toList

/-- `s.toLowerCase()`. -/
def toLowerCase (s : String) : String := String.ofList (LowerCase.lowerText s.toList)

/-- What has no character to lower is its own lower-case form. -/
theorem toLowerCase_eq {s : String} (h : ∀ c ∈ s.toList, LowerCase.lower c = [c]) :
    toLowerCase s = s := by
  rw [toLowerCase, LowerCase.lowerText_of_own h, String.ofList_toList]

/-- Where nothing is to be dropped, nothing is. -/
theorem dropWhile_of_forall {p : Char → Bool} {cs : List Char} (h : ∀ c ∈ cs, p c = false) :
    cs.dropWhile p = cs := by
  cases cs with
  | nil => rfl
  | cons c cs =>
      have hc : p c = false := h c List.mem_cons_self
      rw [List.dropWhile_cons, hc]
      rfl

/-- What has no white space is left by `trim`. -/
theorem trim_eq {s : String} (h : ∀ c ∈ s.toList, isWhiteSpace c = false) : trim s = s := by
  have hreverse : ∀ c ∈ s.toList.reverse, isWhiteSpace c = false :=
    fun c hc => h c (List.mem_reverse.mp hc)
  rw [trim, dropWhile_of_forall h, dropWhile_of_forall hreverse, List.reverse_reverse,
    String.ofList_toList]

/-- Trimming adds no character. -/
theorem mem_trim {s : String} {c : Char} (h : c ∈ (trim s).toList) : c ∈ s.toList := by
  rw [trim, String.toList_ofList, List.mem_reverse] at h
  have hreverse := (List.dropWhile_suffix isWhiteSpace).mem h
  exact (List.dropWhile_suffix isWhiteSpace).mem (List.mem_reverse.mp hreverse)

/-- A string in lower case has no character to lower. -/
theorem lower_of_mem_toLowerCase {s : String} {c : Char} (h : c ∈ (toLowerCase s).toList) :
    LowerCase.lower c = [c] := by
  rw [toLowerCase, String.toList_ofList] at h
  exact LowerCase.lower_of_mem_lowerText h

/-- Lower-casing twice is doing it once. -/
theorem toLowerCase_toLowerCase (s : String) : toLowerCase (toLowerCase s) = toLowerCase s := by
  rw [toLowerCase, toLowerCase, String.toList_ofList, LowerCase.lowerText_lowerText]

/-- Lower-casing and trimming twice is doing it once. -/
theorem toLowerCase_trim_toLowerCase (s : String) :
    toLowerCase (trim (toLowerCase s)) = trim (toLowerCase s) :=
  toLowerCase_eq fun _ hc => lower_of_mem_toLowerCase (mem_trim hc)

/-- White space has one of the codes. -/
theorem mem_whiteSpaceCodes {c : Char} (h : isWhiteSpace c = true) :
    c.toNat ∈ whiteSpaceCodes :=
  List.contains_iff_mem.mp h

/-- White space is no letter and no form of one. -/
theorem blank_isWhiteSpace : LowerCase.Blank isWhiteSpace where
  uncased c hc := by
    have hcodes : ∀ n ∈ whiteSpaceCodes, (LowerCase.casedRanges.any fun range =>
        range.1 ≤ n && n ≤ range.2) = false := by
      decide +kernel
    exact hcodes c.toNat (mem_whiteSpaceCodes hc)
  own c hc := by
    have hcodes : ∀ n ∈ whiteSpaceCodes, LowerCase.lowerIn LowerCase.lowered n = n := by
      decide +kernel
    have hdotted : c ≠ '\u0130' := by
      rintro rfl
      exact absurd hc (by decide)
    rw [LowerCase.lower, if_neg hdotted, LowerCase.lowerChar,
      hcodes c.toNat (mem_whiteSpaceCodes hc), Char.ofNat_toNat]
  final := by decide
  form c hc b hb := by
    by_cases hdotted : c = '\u0130'
    · rw [LowerCase.lower, if_pos hdotted] at hb
      have hforms : ∀ b ∈ ['i', '\u0307'], isWhiteSpace b = false :=
        List.forall_mem_cons.mpr ⟨by decide, List.forall_mem_singleton.mpr (by decide)⟩
      exact hforms b hb
    · rw [LowerCase.lower, if_neg hdotted, List.mem_singleton] at hb
      rw [hb]
      rcases LowerCase.lowerChar_cases c with hsame | ⟨run, hrun, n, hn, -, -, hform⟩
      · rw [hsame]
        exact hc
      · have hcodes : ∀ run ∈ LowerCase.lowered, ∀ n ∈ whiteSpaceCodes,
            n < run.form ∨ run.form + (run.last - run.first) < n := by
          decide +kernel
        refine Bool.eq_false_iff.mpr fun hwhite => ?_
        have hapart := hcodes run hrun _ (mem_whiteSpaceCodes hwhite)
        omega

/-- **It does not matter whether a string is trimmed before or after it is put
in lower case.** -/
theorem trim_toLowerCase (s : String) : trim (toLowerCase s) = toLowerCase (trim s) := by
  have hfront := LowerCase.dropWhile_lowerBetween blank_isWhiteSpace (List.forall_mem_nil _)
    s.toList []
  have hback := LowerCase.rdropWhile_lowerBetween blank_isWhiteSpace []
    (s.toList.dropWhile isWhiteSpace) (List.forall_mem_nil _)
  rw [toLowerCase, toLowerCase, trim, trim, String.toList_ofList, String.toList_ofList,
    LowerCase.lowerText, LowerCase.lowerText, hfront]
  exact congrArg String.ofList hback

/-- Trimming twice is doing it once. -/
theorem trim_trim (s : String) : trim (trim s) = trim s := by
  obtain ⟨cs, hcs⟩ : ∃ cs, s.toList.dropWhile isWhiteSpace = cs := ⟨_, rfl⟩
  have hfirst : ∀ c ∈ cs.head?, isWhiteSpace c = false := by
    intro c hc
    have hnot := List.head?_dropWhile_not isWhiteSpace s.toList
    rw [hcs, Option.mem_def.mp hc] at hnot
    simpa using hnot
  have htrim : trim s = String.ofList (cs.rdropWhile isWhiteSpace) := by
    rw [trim, hcs]
    rfl
  have hfront : (cs.rdropWhile isWhiteSpace).dropWhile isWhiteSpace =
      cs.rdropWhile isWhiteSpace := by
    obtain ⟨rest, hrest⟩ := List.rdropWhile_prefix isWhiteSpace cs
    cases hkept : cs.rdropWhile isWhiteSpace with
    | nil => rfl
    | cons c kept =>
        rw [hkept] at hrest
        have hc : isWhiteSpace c = false := hfirst c (by rw [← hrest]; rfl)
        exact List.dropWhile_cons_of_neg (by rw [hc]; exact Bool.false_ne_true)
  have hback := List.rdropWhile_idempotent isWhiteSpace cs
  rw [htrim, trim, String.toList_ofList, hfront]
  exact congrArg String.ofList hback

/-- The lower-case form of a trimmed string is trimmed. -/
theorem trim_toLowerCase_trim (s : String) :
    trim (toLowerCase (trim s)) = toLowerCase (trim s) := by
  rw [trim_toLowerCase, trim_trim]

/-- The number a run of decimal digits denotes. -/
def decimal (cs : List Char) : Nat := cs.foldl (fun n c => 10 * n + (c.toNat - '0'.toNat)) 0

/-- The decimal digits of a number denote it. -/
theorem decimal_toDigits (k : Nat) : decimal (Nat.toDigits 10 k) = k := by
  have hfold := Nat.ofDigitChars_ten_toDigits (n := k)
  rw [Nat.ofDigitChars_eq_foldl] at hfold
  exact hfold

/-- No digit is white space. -/
theorem isWhiteSpace_of_isDigit {c : Char} (h : c.isDigit = true) : isWhiteSpace c = false := by
  have hrange : 48 ≤ c.toNat ∧ c.toNat ≤ 57 := by
    rw [Char.isDigit, Bool.and_eq_true, decide_eq_true_eq, decide_eq_true_eq] at h
    exact h
  have hdigits : ∀ n < 58, 48 ≤ n → isWhiteSpace (Char.ofNat n) = false := by decide +kernel
  have hc : Char.ofNat c.toNat = c := Char.ofNat_toNat c
  have hspace := hdigits c.toNat (by omega) hrange.1
  rw [hc] at hspace
  exact hspace

/-! ## Instants -/

/-- A valid `Date`: milliseconds since 1970-01-01T00:00:00Z. -/
abbrev Date := Int

def msPerDay : Int := 86400000

/-- Year, month and day of a day number. -/
def civilFromDays (days : Int) : Int × Int × Int :=
  let z := days + 719468
  let era := z / 146097
  let doe := z % 146097
  let yoe := (doe - doe / 1460 + doe / 36524 - doe / 146096) / 365
  let doy := doe - (365 * yoe + yoe / 4 - yoe / 100)
  let mp := (5 * doy + 2) / 153
  let month := if mp < 10 then mp + 3 else mp - 9
  let year := yoe + era * 400 + if month ≤ 2 then 1 else 0
  (year, month, doy - (153 * mp + 2) / 5 + 1)

/-- The day number of a year, month and day. -/
def daysFromCivil (year month day : Int) : Int :=
  let y := if month ≤ 2 then year - 1 else year
  let era := y / 400
  let yoe := y - era * 400
  let doy := (153 * (if month > 2 then month - 3 else month + 9) + 2) / 5 + day - 1
  era * 146097 + (yoe * 365 + yoe / 4 - yoe / 100 + doy) - 719468

/-- `n` in decimal, with leading zeros up to `width` digits. -/
def pad (width : Nat) (n : Int) : String :=
  let digits := toString n.natAbs
  String.ofList (List.replicate (width - digits.length) '0') ++ digits

/-- A year outside 0–9999 is printed with a sign and six digits. -/
def yearString (year : Int) : String :=
  if 0 ≤ year ∧ year ≤ 9999 then pad 4 year
  else (if year < 0 then "-" else "+") ++ pad 6 year

/-- `Date.prototype.toISOString`. -/
def toISOString (d : Date) : String :=
  let (year, month, day) := civilFromDays (d / msPerDay)
  let t := d % msPerDay
  s!"{yearString year}-{pad 2 month}-{pad 2 day}T{pad 2 (t / 3600000)}:{pad 2 (t / 60000 % 60)}:{pad 2 (t / 1000 % 60)}.{pad 3 (t % 1000)}Z"

/-- The number a non-empty run of decimal digits denotes. -/
def digits? (cs : List Char) : Option Int :=
  if cs ≠ [] ∧ cs.all Char.isDigit then
    some (decimal cs)
  else none

/-- Read the form `YYYY-MM-DDTHH:mm:ss.sssZ`.  Like V8, this does not look at
how many days the month has. -/
def parseISO (s : String) : Option Date :=
  match s.toList with
  | [y₀, y₁, y₂, y₃, '-', mo₀, mo₁, '-', d₀, d₁, 'T', h₀, h₁, ':', mi₀, mi₁, ':', s₀, s₁, '.',
      f₀, f₁, f₂, 'Z'] => do
    let year ← digits? [y₀, y₁, y₂, y₃]
    let month ← digits? [mo₀, mo₁]
    let day ← digits? [d₀, d₁]
    let hour ← digits? [h₀, h₁]
    let minute ← digits? [mi₀, mi₁]
    let second ← digits? [s₀, s₁]
    let ms ← digits? [f₀, f₁, f₂]
    let time := hour * 3600000 + minute * 60000 + second * 1000 + ms
    if 1 ≤ month ∧ month ≤ 12 ∧ 1 ≤ day ∧ day ≤ 31 ∧ minute ≤ 59 ∧ second ≤ 59 ∧
        time ≤ msPerDay then
      some (daysFromCivil year month day * msPerDay + time)
    else none
  | _ => none

/-- `new Date(s)`, or `none` for an invalid date.  The language fixes the form
above and leaves every other string to the implementation, `other`. -/
def newDate (other : String → Option Date) (s : String) : Option Date :=
  match parseISO s with
  | some d => some d
  | none => other s

example : toISOString 1716500000123 = "2024-05-23T21:33:20.123Z" := by decide

example : parseISO "2024-05-23T21:33:20.123Z" = some 1716500000123 := by decide

/-! ## Reading an instant back -/

/-- `x` days into a century, `y` is the year of it and what is left is a day of
the year. -/
theorem century_range {c x u y : Int} (hc : 0 ≤ c ∧ c ≤ 3) (hx : 0 ≤ x ∧ x < 36524)
    (hu : (24 * c + x) / 1460 = u) (hy : (x - u) / 365 = y) :
    (0 ≤ y ∧ y ≤ 99) ∧ 0 ≤ x - 365 * y - y / 4 ∧ x - 365 * y - y / 4 ≤ 365 := by
  have hlow : y / 4 ≤ u := by omega
  have hhigh : u ≤ y / 4 + 1 := by omega
  omega

/-- `doe` days into an era of four centuries, `yoe` is the year of it and what is left is
a day of the year. -/
theorem era_range {doe yoe : Int} (hdoe : 0 ≤ doe ∧ doe < 146097)
    (h : (doe - doe / 1460 + doe / 36524 - doe / 146096) / 365 = yoe) :
    (0 ≤ yoe ∧ yoe < 400) ∧ 0 ≤ doe - (365 * yoe + yoe / 4 - yoe / 100) ∧
      doe - (365 * yoe + yoe / 4 - yoe / 100) ≤ 365 := by
  by_cases hlast : doe = 146096
  · subst hlast h
    decide
  · generalize hc : doe / 36524 = c at h
    generalize hx : doe % 36524 = x
    generalize hu : (24 * c + x) / 1460 = u
    generalize hy : (x - u) / 365 = y
    have hcentury := century_range (by omega) (by omega) hu hy
    have hyear : yoe = 100 * c + y := by omega
    have hquad : yoe / 4 = 25 * c + y / 4 := by omega
    omega

/-- The calendar read backwards: months are counted from March. -/
theorem daysFromCivil_parts {era yoe doy mp : Int} (hyoe : 0 ≤ yoe ∧ yoe < 400)
    (hmp : 0 ≤ mp ∧ mp ≤ 11) :
    daysFromCivil (yoe + era * 400 + if (if mp < 10 then mp + 3 else mp - 9) ≤ 2 then 1 else 0)
        (if mp < 10 then mp + 3 else mp - 9) (doy - (153 * mp + 2) / 5 + 1) =
      era * 146097 + (yoe * 365 + yoe / 4 - yoe / 100 + doy) - 719468 := by
  unfold daysFromCivil
  dsimp only
  by_cases hspring : mp < 10
  · have hmonth : ¬ mp + 3 ≤ 2 := by omega
    have hmarch : mp + 3 > 2 := by omega
    simp only [hspring, if_true, hmonth, if_false, hmarch]
    have hera : (yoe + era * 400 + 0) / 400 = era := by omega
    rw [hera]
    have hyear : yoe + era * 400 + 0 - era * 400 = yoe := by omega
    rw [hyear]
    omega
  · have hmonth : mp - 9 ≤ 2 := by omega
    have hmarch : ¬ mp - 9 > 2 := by omega
    simp only [hspring, if_true, hmonth, if_false, hmarch]
    have hyear : yoe + era * 400 + 1 - 1 = yoe + era * 400 := by omega
    rw [hyear]
    have hera : (yoe + era * 400) / 400 = era := by omega
    rw [hera]
    have hyoe' : yoe + era * 400 - era * 400 = yoe := by omega
    rw [hyoe']
    omega

/-- The day number is computed back from the date. -/
theorem daysFromCivil_civilFromDays (days : Int) :
    daysFromCivil (civilFromDays days).1 (civilFromDays days).2.1 (civilFromDays days).2.2 =
      days := by
  have hdoe : 0 ≤ (days + 719468) % 146097 ∧ (days + 719468) % 146097 < 146097 := by omega
  obtain ⟨hyoe, hdoy⟩ := era_range hdoe rfl
  refine (daysFromCivil_parts hyoe (by omega)).trans ?_
  omega

/-- Every day has a month and a day of the month. -/
theorem civilFromDays_range (days : Int) :
    (1 ≤ (civilFromDays days).2.1 ∧ (civilFromDays days).2.1 ≤ 12) ∧
      1 ≤ (civilFromDays days).2.2 ∧ (civilFromDays days).2.2 ≤ 31 := by
  have hdoe : 0 ≤ (days + 719468) % 146097 ∧ (days + 719468) % 146097 < 146097 := by omega
  obtain ⟨hyoe, hdoy⟩ := era_range hdoe rfl
  unfold civilFromDays
  dsimp only
  constructor
  · split <;> omega
  · omega


/-- A run of `width` digits that denotes `n`. -/
structure Numeral (width : Nat) (n : Int) (cs : List Char) : Prop where
  length : cs.length = width
  digits : digits? cs = some n

/-- Zeros in front do not count. -/
theorem decimal_zeros (k : Nat) (ds : List Char) :
    decimal (List.replicate k '0' ++ ds) = decimal ds := by
  induction k with
  | zero => rfl
  | succ k ih =>
      rw [List.replicate_succ, List.cons_append, ← ih]
      rfl

/-- A number that fits is padded to a numeral. -/
theorem numeral_pad {width : Nat} {n : Int} (hwidth : 0 < width) (hn : 0 ≤ n ∧ n < 10 ^ width) :
    Numeral width n (pad width n).toList := by
  obtain ⟨k, rfl⟩ := Int.eq_ofNat_of_zero_le hn.1
  have hk : k < 10 ^ width := by
    have hcast := hn.2
    exact_mod_cast hcast
  have hlength : (Nat.toDigits 10 k).length ≤ width :=
    (Nat.length_toDigits_le_iff (by decide) hwidth).mpr hk
  have hrepr : (toString k).toList = Nat.toDigits 10 k := Nat.toList_repr
  have hpad : (pad width k).toList =
      List.replicate (width - (Nat.toDigits 10 k).length) '0' ++ Nat.toDigits 10 k := by
    rw [pad, String.toList_append, String.toList_ofList, Int.natAbs_natCast, ← String.length_toList,
      hrepr]
  rw [hpad]
  constructor
  · rw [List.length_append, List.length_replicate]
    omega
  · have hne : List.replicate (width - (Nat.toDigits 10 k).length) '0' ++ Nat.toDigits 10 k ≠ [] :=
      List.append_ne_nil_of_right_ne_nil _ Nat.toDigits_ne_nil
    have hall : (List.replicate (width - (Nat.toDigits 10 k).length) '0' ++
        Nat.toDigits 10 k).all Char.isDigit = true := by
      rw [List.all_append, Bool.and_eq_true]
      constructor
      · simp
      · exact List.all_eq_true.mpr fun c hc =>
          Nat.isDigit_of_mem_toDigits (by decide : 0 < 10) (by decide) hc
    rw [digits?, if_pos ⟨hne, hall⟩, decimal_zeros, decimal_toDigits]

/-- Seven numerals with the separators between them are read as the instant. -/
theorem parseISO_fields {y mo d h mi s f : List Char} {year month day hour minute second ms : Int}
    (hy : Numeral 4 year y) (hmo : Numeral 2 month mo) (hd : Numeral 2 day d)
    (hh : Numeral 2 hour h) (hmi : Numeral 2 minute mi) (hs : Numeral 2 second s)
    (hf : Numeral 3 ms f) :
    parseISO (String.ofList (y ++ '-' :: (mo ++ '-' :: (d ++ 'T' :: (h ++ ':' :: (mi ++ ':' ::
        (s ++ '.' :: (f ++ ['Z'])))))))) =
      let time := hour * 3600000 + minute * 60000 + second * 1000 + ms
      if 1 ≤ month ∧ month ≤ 12 ∧ 1 ≤ day ∧ day ≤ 31 ∧ minute ≤ 59 ∧ second ≤ 59 ∧
          time ≤ msPerDay then
        some (daysFromCivil year month day * msPerDay + time)
      else none := by
  obtain ⟨y₀, y₁, y₂, y₃, rfl⟩ : ∃ a b c e, y = [a, b, c, e] := by
    match y, hy.length with
    | [a, b, c, e], _ => exact ⟨a, b, c, e, rfl⟩
  obtain ⟨mo₀, mo₁, rfl⟩ := List.length_eq_two.mp hmo.length
  obtain ⟨d₀, d₁, rfl⟩ := List.length_eq_two.mp hd.length
  obtain ⟨h₀, h₁, rfl⟩ := List.length_eq_two.mp hh.length
  obtain ⟨mi₀, mi₁, rfl⟩ := List.length_eq_two.mp hmi.length
  obtain ⟨s₀, s₁, rfl⟩ := List.length_eq_two.mp hs.length
  obtain ⟨f₀, f₁, f₂, rfl⟩ := List.length_eq_three.mp hf.length
  simp only [parseISO, String.toList_ofList, List.cons_append, List.nil_append, hy.digits,
    hmo.digits, hd.digits, hh.digits, hmi.digits, hs.digits, hf.digits, Option.bind_eq_bind,
    Option.bind_some]

/-- The year has four digits. -/
def HasFourDigitYear (d : Date) : Prop :=
  0 ≤ (civilFromDays (d / msPerDay)).1 ∧ (civilFromDays (d / msPerDay)).1 ≤ 9999

/-- The text of an instant, numeral by numeral. -/
theorem toISOString_fields {d : Date} (h : HasFourDigitYear d) :
    toISOString d = String.ofList ((pad 4 (civilFromDays (d / msPerDay)).1).toList ++
      '-' :: ((pad 2 (civilFromDays (d / msPerDay)).2.1).toList ++
      '-' :: ((pad 2 (civilFromDays (d / msPerDay)).2.2).toList ++
      'T' :: ((pad 2 (d % msPerDay / 3600000)).toList ++
      ':' :: ((pad 2 (d % msPerDay / 60000 % 60)).toList ++
      ':' :: ((pad 2 (d % msPerDay / 1000 % 60)).toList ++
      '.' :: ((pad 3 (d % msPerDay % 1000)).toList ++ ['Z']))))))) := by
  have hyear : yearString (civilFromDays (d / msPerDay)).1 =
      pad 4 (civilFromDays (d / msPerDay)).1 := if_pos h
  rw [← String.toList_inj, String.toList_ofList, ← hyear]
  simp [toISOString, ToString.toString]

/-- **An instant is read back from its text.** -/
theorem parseISO_toISOString {d : Date} (h : HasFourDigitYear d) :
    parseISO (toISOString d) = some d := by
  obtain ⟨hmonth, hday⟩ := civilFromDays_range (d / msPerDay)
  have hdays := daysFromCivil_civilFromDays (d / msPerDay)
  have hyear : 0 ≤ (civilFromDays (d / msPerDay)).1 ∧
      (civilFromDays (d / msPerDay)).1 < 10 ^ 4 := ⟨h.1, Int.lt_add_one_of_le h.2⟩
  rw [toISOString_fields h]
  obtain ⟨t, ht⟩ : ∃ t : Int, d % msPerDay = t := ⟨_, rfl⟩
  have hlow : 0 ≤ t := ht ▸ Int.emod_nonneg _ (by decide)
  have hhigh : t < 86400000 := ht ▸ Int.emod_lt_of_pos _ (by decide)
  rw [ht, parseISO_fields (numeral_pad (by decide) hyear) (numeral_pad (by decide) (by omega))
    (numeral_pad (by decide) (by omega)) (numeral_pad (by decide) (by omega))
    (numeral_pad (by decide) (by omega)) (numeral_pad (by decide) (by omega))
    (numeral_pad (by decide) (by omega)), hdays]
  have htime : t / 3600000 * 3600000 + t / 60000 % 60 * 60000 + t / 1000 % 60 * 1000 + t % 1000 =
      t := by omega
  have hday' : t ≤ msPerDay := Int.le_of_lt hhigh
  rw [htime, if_pos (by omega), ← ht, Int.ediv_mul_add_emod]

/-- `new Date(d.toISOString())` is `d` again, in a year of four digits. -/
theorem newDate_toISOString (other : String → Option Date) {d : Date} (h : HasFourDigitYear d) :
    newDate other (toISOString d) = some d := by
  rw [newDate, parseISO_toISOString h]

/-! ## Telling instants apart -/

/-- Padding does not change the number. -/
theorem decimal_pad (width : Nat) (n : Int) : decimal (pad width n).toList = n.natAbs := by
  have hrepr : (toString n.natAbs).toList = Nat.toDigits 10 n.natAbs := Nat.toList_repr
  rw [pad, String.toList_append, String.toList_ofList, decimal_zeros, hrepr, decimal_toDigits]

/-- Two numbers that are written alike with zeros in front are one. -/
theorem pad_inj {width : Nat} {m n : Int} (hm : 0 ≤ m) (hn : 0 ≤ n)
    (h : (pad width m).toList = (pad width n).toList) : m = n := by
  have habs : m.natAbs = n.natAbs := by rw [← decimal_pad width m, h, decimal_pad]
  omega

/-- A numeral starts with a digit, so it has no sign. -/
theorem sign_ne_pad (sign : Char) {cs : List Char} {n : Int} (hsign : sign.isDigit = false)
    (hn : 0 ≤ n ∧ n < 10 ^ 4) : sign :: cs ≠ (pad 4 n).toList := by
  intro h
  have hdigits := (numeral_pad (by decide) hn).digits
  have hall : ¬ (sign :: cs ≠ [] ∧ (sign :: cs).all Char.isDigit = true) := by
    simp [hsign]
  rw [← h, digits?, if_neg hall] at hdigits
  cases hdigits

/-- Two years that are written alike are one. -/
theorem yearString_inj {y y' : Int} (h : (yearString y).toList = (yearString y').toList) :
    y = y' := by
  have hshort : ∀ {m n : Int}, (0 ≤ m ∧ m ≤ 9999) → ¬ (0 ≤ n ∧ n ≤ 9999) →
      (yearString m).toList ≠ (yearString n).toList := by
    intro m n hm hn heq
    rw [yearString, if_pos hm, yearString, if_neg hn, String.toList_append] at heq
    have hrange : 0 ≤ m ∧ m < 10 ^ 4 := by omega
    by_cases hneg : n < 0
    · rw [if_pos hneg] at heq
      exact sign_ne_pad '-' (by decide) hrange heq.symm
    · rw [if_neg hneg] at heq
      exact sign_ne_pad '+' (by decide) hrange heq.symm
  by_cases hy : 0 ≤ y ∧ y ≤ 9999
  · by_cases hy' : 0 ≤ y' ∧ y' ≤ 9999
    · rw [yearString, if_pos hy, yearString, if_pos hy'] at h
      exact pad_inj hy.1 hy'.1 h
    · exact absurd h (hshort hy hy')
  · by_cases hy' : 0 ≤ y' ∧ y' ≤ 9999
    · exact absurd h.symm (hshort hy' hy)
    · rw [yearString, if_neg hy, yearString, if_neg hy', String.toList_append,
        String.toList_append] at h
      by_cases hneg : y < 0
      · by_cases hneg' : y' < 0
        · rw [if_pos hneg, if_pos hneg'] at h
          have habs := congrArg decimal (List.append_cancel_left h)
          rw [decimal_pad, decimal_pad] at habs
          omega
        · rw [if_pos hneg, if_neg hneg'] at h
          cases (List.cons.inj h).1
      · by_cases hneg' : y' < 0
        · rw [if_neg hneg, if_pos hneg'] at h
          cases (List.cons.inj h).1
        · rw [if_neg hneg, if_neg hneg'] at h
          exact pad_inj (by omega) (by omega) (List.append_cancel_left h)

/-- The text of an instant after its year. -/
def afterYear (d : Date) : List Char :=
  '-' :: ((pad 2 (civilFromDays (d / msPerDay)).2.1).toList ++
    '-' :: ((pad 2 (civilFromDays (d / msPerDay)).2.2).toList ++
    'T' :: ((pad 2 (d % msPerDay / 3600000)).toList ++
    ':' :: ((pad 2 (d % msPerDay / 60000 % 60)).toList ++
    ':' :: ((pad 2 (d % msPerDay / 1000 % 60)).toList ++
    '.' :: ((pad 3 (d % msPerDay % 1000)).toList ++ ['Z']))))))

/-- An instant is written as its year and the rest. -/
theorem toISOString_toList (d : Date) : (toISOString d).toList =
    (yearString (civilFromDays (d / msPerDay)).1).toList ++ afterYear d := by
  simp [toISOString, afterYear, ToString.toString]

/-- A numeral of known width is read off the front of a text. -/
theorem pad_append_inj {width : Nat} {m n : Int} {rest rest' : List Char} (hwidth : 0 < width)
    (hm : 0 ≤ m ∧ m < 10 ^ width) (hn : 0 ≤ n ∧ n < 10 ^ width)
    (h : (pad width m).toList ++ rest = (pad width n).toList ++ rest') : m = n ∧ rest = rest' := by
  have hlength : (pad width m).toList.length = (pad width n).toList.length := by
    rw [(numeral_pad hwidth hm).length, (numeral_pad hwidth hn).length]
  obtain ⟨hpad, hrest⟩ := List.append_inj h hlength
  exact ⟨pad_inj hm.1 hn.1 hpad, hrest⟩

/-- What follows the year has one length. -/
theorem afterYear_length (d : Date) : (afterYear d).length = 20 := by
  obtain ⟨hmonth, hday⟩ := civilFromDays_range (d / msPerDay)
  obtain ⟨t, ht⟩ : ∃ t : Int, d % msPerDay = t := ⟨_, rfl⟩
  have hlow : 0 ≤ t := ht ▸ Int.emod_nonneg _ (by decide)
  have hhigh : t < 86400000 := ht ▸ Int.emod_lt_of_pos _ (by decide)
  have htwo : ∀ n : Int, 0 ≤ n ∧ n < 100 → (pad 2 n).toList.length = 2 := fun n hn =>
    (numeral_pad (by decide) hn).length
  have hthree : ∀ n : Int, 0 ≤ n ∧ n < 1000 → (pad 3 n).toList.length = 3 := fun n hn =>
    (numeral_pad (by decide) hn).length
  simp only [afterYear, ht, List.length_cons, List.length_append, List.length_nil]
  rw [htwo _ (by omega), htwo _ (by omega), htwo _ (by omega), htwo _ (by omega),
    htwo _ (by omega), hthree _ (by omega)]

/-- Month, day and time of day are read off the text. -/
theorem afterYear_inj {d d' : Date} (h : afterYear d = afterYear d') :
    (civilFromDays (d / msPerDay)).2 = (civilFromDays (d' / msPerDay)).2 ∧
      d % msPerDay = d' % msPerDay := by
  obtain ⟨hmonth, hday⟩ := civilFromDays_range (d / msPerDay)
  obtain ⟨hmonth', hday'⟩ := civilFromDays_range (d' / msPerDay)
  obtain ⟨t, ht⟩ : ∃ t : Int, d % msPerDay = t := ⟨_, rfl⟩
  obtain ⟨t', ht'⟩ : ∃ t : Int, d' % msPerDay = t := ⟨_, rfl⟩
  have hlow : 0 ≤ t := ht ▸ Int.emod_nonneg _ (by decide)
  have hhigh : t < 86400000 := ht ▸ Int.emod_lt_of_pos _ (by decide)
  have hlow' : 0 ≤ t' := ht' ▸ Int.emod_nonneg _ (by decide)
  have hhigh' : t' < 86400000 := ht' ▸ Int.emod_lt_of_pos _ (by decide)
  simp only [afterYear, ht, ht'] at h
  obtain ⟨hmonths, h⟩ := pad_append_inj (by decide) (by omega) (by omega) (List.cons.inj h).2
  obtain ⟨hdays, h⟩ := pad_append_inj (by decide) (by omega) (by omega) (List.cons.inj h).2
  obtain ⟨hhours, h⟩ := pad_append_inj (by decide) (by omega) (by omega) (List.cons.inj h).2
  obtain ⟨hminutes, h⟩ := pad_append_inj (by decide) (by omega) (by omega) (List.cons.inj h).2
  obtain ⟨hseconds, h⟩ := pad_append_inj (by decide) (by omega) (by omega) (List.cons.inj h).2
  obtain ⟨hmillis, -⟩ := pad_append_inj (by decide) (by omega) (by omega) (List.cons.inj h).2
  have htime : ∀ x : Int, x / 3600000 * 3600000 + x / 60000 % 60 * 60000 + x / 1000 % 60 * 1000 +
      x % 1000 = x := by
    intro x
    omega
  rw [ht, ht', ← htime t, ← htime t', hhours, hminutes, hseconds, hmillis]
  exact ⟨Prod.ext hmonths hdays, rfl⟩

/-- **Instants are told apart by their texts.** -/
theorem toISOString_inj {d d' : Date} : toISOString d = toISOString d' ↔ d = d' := by
  constructor
  · intro h
    have htext := congrArg String.toList h
    rw [toISOString_toList, toISOString_toList] at htext
    obtain ⟨hyear, hrest⟩ := List.append_inj' htext
      ((afterYear_length d).trans (afterYear_length d').symm)
    obtain ⟨hmonth, htime⟩ := afterYear_inj hrest
    have hdays : d / msPerDay = d' / msPerDay := by
      rw [← daysFromCivil_civilFromDays (d / msPerDay), yearString_inj hyear, hmonth,
        daysFromCivil_civilFromDays]
    rw [← Int.ediv_mul_add_emod d msPerDay, hdays, htime, Int.ediv_mul_add_emod]
  · exact congrArg toISOString

end Atlas.Js

import Atlas.Js
import Atlas.Lib.Shortest

/-!
# Atlas.Double

The values of type `number`, rounded as the machine does, and their texts.

`Double.toString` is `String(a)`: the digits are those of the shortest decimal
that is rounded to `a`, and from 10²¹ on they stand before an exponent.
`parseInt` reads the digits at the front of a text, so it gives a number back
exactly when that is a whole one below 10²¹ (`parseInt_toString_iff`).
-/

namespace Atlas.Js

open StoreKit

/-! ## Rounding -/

namespace Number

/-- What is left of the result of an operation: the nearest double. -/
def rounded : Number → Number
  | .of q => if Binary64.overflow ≤ |q| then infinity q else .of (Binary64.round q)
  | a => a

theorem ratCeil_eq (q : Rat) : q.ceil = ⌈q⌉ :=
  le_antisymm (Rat.ceil_le_iff.mpr (Int.le_ceil q)) (Int.ceil_le.mpr Rat.le_ceil)

/-- Infinity is no finite number. -/
theorem infinity_ne_of (p q : Rat) : infinity p ≠ .of q := by
  unfold infinity
  split_ifs <;> exact fun h => by cases h

/-- Infinity is a double. -/
theorem rounded_infinity (q : Rat) : rounded (infinity q) = infinity q := by
  unfold infinity
  split_ifs <;> rfl

/-- A result that does not overflow is rounded to a finite number. -/
theorem rounded_of {q : Rat} (h : |q| < Binary64.overflow) :
    rounded (.of q) = .of (Binary64.round q) := if_neg (not_le.mpr h)

/-- A finite result has not overflowed. -/
theorem rounded_eq_of_iff {q r : Rat} :
    rounded (.of q) = .of r ↔ |q| < Binary64.overflow ∧ Binary64.round q = r := by
  by_cases h : |q| < Binary64.overflow
  · rw [rounded_of h, Number.of.injEq]
    exact (and_iff_right h).symm
  · rw [rounded, if_pos (not_lt.mp h)]
    exact iff_of_false (infinity_ne_of _ _) fun hr => h hr.1

end Number

/-- Every result is rounded. -/
def Arithmetic.binary64 : Arithmetic where
  pred a := a.pred.rounded
  add a b := (a.add b).rounded
  mul a b := (a.mul b).rounded
  div a b := (a.div b).rounded

/-! ## Doubles -/

/-- The value of a variable of type `number`: what a double can hold.  The two
zeros are one. -/
@[ext] structure Double where
  number : Number
  stored : ∀ q, number = .of q → Binary64.Representable q
deriving DecidableEq

namespace Double

def ofNumber (a : Number) : Double where
  number := a.rounded
  stored := by
    intro q hq
    cases a with
    | nan => cases hq
    | posInfinity => cases hq
    | negInfinity => cases hq
    | of p =>
        obtain ⟨hp, rfl⟩ := Number.rounded_eq_of_iff.mp hq
        exact Binary64.representable_round hp

/-- An integer literal. -/
def literal (n : Nat) (h : n < 2 ^ 53) : Double where
  number := n
  stored := by
    intro q hq
    obtain rfl := Number.of.inj hq
    refine Binary64.representable_intCast (m := n) ?_
    rw [Nat.abs_cast]
    exact_mod_cast h

/-- A whole number of 53 bits is not rounded. -/
theorem rounded_natCast {n : Nat} (h : n < 2 ^ 53) : (n : Number).rounded = n := by
  have hstored := (literal n h).stored n rfl
  refine (Number.rounded_of hstored.lt_overflow).trans ?_
  rw [Binary64.round_of_representable hstored]
  rfl

def pred (a : Double) : Double := ofNumber a.number.pred

def mul (a b : Double) : Double := ofNumber (a.number.mul b.number)

/-- `Math.min(a, b)` is one of the two. -/
theorem min_eq (a b : Number) : a.min b = a ∨ a.min b = b ∨ a.min b = .nan := by
  cases a <;> cases b <;> simp [Number.min]
  grind

def min (a b : Double) : Double where
  number := a.number.min b.number
  stored := by
    intro q hq
    rcases min_eq a.number b.number with h | h | h
    · exact a.stored q (h.symm.trans hq)
    · exact b.stored q (h.symm.trans hq)
    · rw [h] at hq
      cases hq

/-- A number of rows, as `parseInt` makes it of the count of the server. -/
structure Count where
  rows : Nat
  stored : Binary64.Representable rows

def quotient (total : Count) (a : Double) : Double :=
  ofNumber ((total.rows : Number).div a.number)

def ceil (a : Double) : Double where
  number := a.number.ceil
  stored := by
    intro q hq
    cases hnumber : a.number with
    | nan => rw [hnumber] at hq; cases hq
    | posInfinity => rw [hnumber] at hq; cases hq
    | negInfinity => rw [hnumber] at hq; cases hq
    | of p =>
        rw [hnumber] at hq
        obtain rfl := Number.of.inj hq
        rw [Number.ratCeil_eq]
        exact (a.stored p hnumber).ceil

@[simp] theorem pred_number (a : Double) : a.pred.number = a.number.pred.rounded := rfl

@[simp] theorem mul_number (a b : Double) :
    (a.mul b).number = (a.number.mul b.number).rounded := rfl

@[simp] theorem min_number (a b : Double) : (a.min b).number = a.number.min b.number := rfl

@[simp] theorem quotient_number (total : Count) (a : Double) :
    (quotient total a).number = ((total.rows : Number).div a.number).rounded := rfl

@[simp] theorem ceil_number (a : Double) : a.ceil.number = a.number.ceil := rfl

@[simp] theorem literal_number (n : Nat) (h : n < 2 ^ 53) : (literal n h).number = (n : Number) :=
  rfl

instance : One Double := ⟨literal 1 (by decide)⟩

/-! ## Texts -/

/-- The digits of a decimal, with as many zeros, a point or an exponent as its
size asks for. -/
def decimalText (d : Binary64.Decimal) : List Char :=
  let digits := Nat.toDigits 10 d.digits
  let n := d.exponent + digits.length
  if 0 ≤ d.exponent ∧ n ≤ 21 then digits ++ List.replicate d.exponent.toNat '0'
  else if 0 < n ∧ n ≤ 21 then digits.take n.toNat ++ '.' :: digits.drop n.toNat
  else if -6 < n ∧ n ≤ 0 then '0' :: '.' :: (List.replicate (-n).toNat '0' ++ digits)
  else
    let sign := if n - 1 < 0 then '-' else '+'
    let point := if digits.length = 1 then [] else ['.']
    digits.take 1 ++ point ++ digits.drop 1 ++ 'e' :: sign :: Nat.toDigits 10 (n - 1).natAbs

/-- The text of a finite number. -/
def finiteText (q : Rat) : List Char :=
  if q = 0 then ['0']
  else
    let digits := decimalText ((Binary64.shortest |q|).getD ⟨0, 0⟩)
    if q < 0 then '-' :: digits else digits

/-- `String(a)`. -/
def toString (a : Double) : String :=
  match a.number with
  | .nan => "NaN"
  | .posInfinity => "Infinity"
  | .negInfinity => "-Infinity"
  | .of q => String.ofList (finiteText q)

end Double

namespace Double

/-- The text of a number is made of what numerals are made of. -/
theorem numeric_decimalText (d : Binary64.Decimal) :
    ∀ c ∈ decimalText d, isNumeralChar c = true := by
  have hdigits : ∀ k, ∀ c ∈ Nat.toDigits 10 k, isNumeralChar c = true := by
    intro k c hc
    have hdigit : c.isDigit = true := Nat.isDigit_of_mem_toDigits (by decide) (by decide) hc
    simp [isNumeralChar, hdigit]
  have hzeros : ∀ n, ∀ c ∈ List.replicate n '0', isNumeralChar c = true := by
    intro n c hc
    rw [List.eq_of_mem_replicate hc]
    rfl
  have hfew := hdigits d.digits
  have hfront : ∀ n, ∀ c ∈ (Nat.toDigits 10 d.digits).take n, isNumeralChar c = true :=
    fun n c hc => hfew c (List.mem_of_mem_take hc)
  have hback : ∀ n, ∀ c ∈ (Nat.toDigits 10 d.digits).drop n, isNumeralChar c = true :=
    fun n c hc => hfew c (List.mem_of_mem_drop hc)
  have hpoint : isNumeralChar '.' = true := rfl
  simp only [decimalText]
  split_ifs <;> simp only [List.forall_mem_append, List.forall_mem_cons]
  · exact ⟨hfew, hzeros _⟩
  · exact ⟨hfront _, hpoint, hback _⟩
  · exact ⟨rfl, hpoint, hzeros _, hfew⟩
  all_goals
    exact ⟨⟨⟨hfront _, by simp [hpoint]⟩, hback _⟩, rfl, rfl, hdigits _⟩

/-- Every number has a digit. -/
theorem decimalText_ne_nil (d : Binary64.Decimal) : decimalText d ≠ [] := by
  simp only [decimalText]
  split_ifs <;> simp [Nat.toDigits_ne_nil]

/-- A number is written as a numeral of JSON. -/
theorem finiteText_isNumeral (q : Rat) :
    finiteText q ≠ [] ∧ (finiteText q).all isNumeralChar = true := by
  have hdigits := numeric_decimalText ((Binary64.shortest |q|).getD ⟨0, 0⟩)
  rw [List.all_eq_true, finiteText]
  split_ifs
  · exact ⟨List.cons_ne_nil _ _, List.forall_mem_singleton.mpr rfl⟩
  · exact ⟨List.cons_ne_nil _ _, List.forall_mem_cons.mpr ⟨rfl, hdigits⟩⟩
  · exact ⟨decimalText_ne_nil _, hdigits⟩

/-- The number inside `JSON.stringify`. -/
def toJson (a : Double) : Json :=
  match a.number with
  | .of q => .num ⟨finiteText q, (finiteText_isNumeral q).1, (finiteText_isNumeral q).2⟩
  | _ => .null

end Double

/-- The integer that a text begins with: an optional sign and as many digits as
there are. -/
def readInt (s : String) : Option Int :=
  let body := s.toList.dropWhile isWhiteSpace
  let (negative, body) := match body with
    | '-' :: cs => (true, cs)
    | '+' :: cs => (false, cs)
    | cs => (false, cs)
  match body.takeWhile Char.isDigit with
  | [] => none
  | ds => some (if negative then -(decimal ds : Int) else decimal ds)

/-- `parseInt(s, 10)`. -/
def parseInt (s : String) : Double :=
  match readInt s with
  | some n => .ofNumber (.of n)
  | none => .ofNumber .nan

/-! ## Reading a text back -/

/-- The decimal digits are digits. -/
theorem isDigit_of_mem_toDigits {k : Nat} {c : Char} (h : c ∈ Nat.toDigits 10 k) :
    c.isDigit = true := Nat.isDigit_of_mem_toDigits (by decide) (by decide) h

/-- The digits at the front of a text are read as the number they denote. -/
theorem readInt_append {ds rest : List Char} (hne : ds ≠ []) (hdigits : ∀ c ∈ ds, c.isDigit = true)
    (hrest : rest.takeWhile Char.isDigit = []) :
    readInt (String.ofList (ds ++ rest)) = some (decimal ds : Int) ∧
      readInt (String.ofList ('-' :: (ds ++ rest))) = some (-(decimal ds : Int)) := by
  have htake : (ds ++ rest).takeWhile Char.isDigit = ds := by
    rw [List.takeWhile_append_of_pos hdigits, hrest, List.append_nil]
  have hspace' : ('-' :: (ds ++ rest)).dropWhile isWhiteSpace = '-' :: (ds ++ rest) := rfl
  cases ds with
  | nil => contradiction
  | cons c cs =>
      have hc : c.isDigit = true := hdigits c List.mem_cons_self
      have hspace : (c :: cs ++ rest).dropWhile isWhiteSpace = c :: cs ++ rest := by
        rw [List.cons_append, List.dropWhile_cons, isWhiteSpace_of_isDigit hc]
        rfl
      have hsign : (match c :: cs ++ rest with
          | '-' :: cs => (true, cs)
          | '+' :: cs => (false, cs)
          | cs => (false, cs)) = (false, c :: cs ++ rest) := by
        split
        · next h =>
            obtain rfl := (List.cons.inj h).1
            contradiction
        · next h =>
            obtain rfl := (List.cons.inj h).1
            contradiction
        · rfl
      have hread : ∀ p : Bool × List Char, (match c :: cs ++ rest with
          | '-' :: cs => (true, cs)
          | '+' :: cs => (false, cs)
          | cs => (false, cs)) = p → readInt (String.ofList (c :: cs ++ rest)) =
            match p.2.takeWhile Char.isDigit with
            | [] => none
            | ds => some (if p.1 then -(decimal ds : Int) else decimal ds) := by
        rintro p rfl
        rw [readInt, String.toList_ofList, hspace]
      constructor
      · refine (hread _ hsign).trans ?_
        simp only [htake, Bool.false_eq_true, if_false]
      · simp only [readInt, String.toList_ofList, hspace', htake, if_true]

/-- Zeros at the end are factors of ten. -/
theorem decimal_append_zeros (ds : List Char) (j : Nat) :
    decimal (ds ++ List.replicate j '0') = decimal ds * 10 ^ j := by
  induction j with
  | zero => simp
  | succ j ih =>
      have hlast : decimal (ds ++ List.replicate j '0' ++ ['0']) =
          10 * decimal (ds ++ List.replicate j '0') + 0 := List.foldl_append
      rw [List.replicate_succ', ← List.append_assoc, hlast, ih, pow_succ]
      ring

/-- The first number in exponent form is a double. -/
theorem representable_end : Binary64.Representable (10 ^ 21) :=
  ⟨5 ^ 21, 21, by decide, by decide, by decide, by norm_num⟩

namespace Double

/-- A decimal of `k` digits is written with `k`. -/
theorem length_toDigits {q : Rat} {k : Nat} (hk : 0 < k) {d : Binary64.Decimal}
    (h : Binary64.Denotes q k d) : (Nat.toDigits 10 d.digits).length = k := by
  have hle : (Nat.toDigits 10 d.digits).length ≤ k :=
    (Nat.length_toDigits_le_iff (by decide) hk).mpr h.high
  by_contra hne
  have hpos : 0 < (Nat.toDigits 10 d.digits).length :=
    List.length_pos_iff.mpr Nat.toDigits_ne_nil
  have hlt : d.digits < 10 ^ (k - 1) :=
    (Nat.length_toDigits_le_iff (by decide) (by omega)).mp (by omega)
  have hlow := h.low
  omega

/-- A decimal with no fraction is its digits, with zeros behind them. -/
theorem value_of_exponent {d : Binary64.Decimal} {e : Nat} (he : d.exponent = e) :
    d.value = (d.digits * 10 ^ e : Nat) := by
  rw [Binary64.Decimal.value, he]
  push_cast
  rfl

/-- A decimal that is rounded to a number below 10²¹ has 21 places at most. -/
theorem places_le {m k e : Nat} {d : Binary64.Decimal} (h : Binary64.Denotes m k d)
    (he : d.exponent = e) (hend : m < 10 ^ 21) : e + k ≤ 21 := by
  by_contra hlong
  have hlarge : 10 ^ 21 ≤ d.digits * 10 ^ e := by
    calc 10 ^ 21 ≤ 10 ^ (k - 1 + e) := Nat.pow_le_pow_right (by decide) (by omega)
      _ = 10 ^ (k - 1) * 10 ^ e := pow_add _ _ _
      _ ≤ d.digits * 10 ^ e := Nat.mul_le_mul_right _ h.low
  have hcast : (10 : Rat) ^ 21 ≤ d.value := by
    rw [value_of_exponent he]
    exact_mod_cast hlarge
  have hmono := Binary64.round_mono hcast
  rw [Binary64.round_of_representable representable_end, h.rounds] at hmono
  exact absurd (by exact_mod_cast hmono) (not_le.mpr hend)

/-- **A whole number below 10²¹** is printed as digits, which denote a number
that is rounded to it. -/
theorem readInt_whole {m : Nat} (hm : 0 < m) (hround : Binary64.round m = m) (hend : m < 10 ^ 21) :
    ∃ n : Nat, n < 10 ^ 21 ∧ Binary64.round n = m ∧
      readInt (String.ofList (decimalText ((Binary64.shortest m).getD ⟨0, 0⟩))) = some (n : Int) ∧
      readInt (String.ofList ('-' :: decimalText ((Binary64.shortest m).getD ⟨0, 0⟩))) =
        some (-(n : Int)) := by
  obtain ⟨k, d, hk, hfew, hshortest, hdenotes⟩ := Binary64.shortest_whole hm hround
  have hlength := length_toDigits hk hdenotes
  have hplace := hdenotes.place
  obtain ⟨e, he⟩ := Int.eq_ofNat_of_zero_le (a := d.exponent) (by omega)
  have hrounds : Binary64.round (d.digits * 10 ^ e : Nat) = m :=
    value_of_exponent he ▸ hdenotes.rounds
  have hshort : e + k ≤ 21 := places_le hdenotes he hend
  have htext : decimalText d = Nat.toDigits 10 d.digits ++ List.replicate e '0' := by
    rw [decimalText, hlength, if_pos (by omega), he]
    rfl
  have hne : Nat.toDigits 10 d.digits ++ List.replicate e '0' ≠ [] :=
    List.append_ne_nil_of_left_ne_nil Nat.toDigits_ne_nil _
  have hdigits : ∀ c ∈ Nat.toDigits 10 d.digits ++ List.replicate e '0', c.isDigit = true := by
    intro c hc
    rcases List.mem_append.mp hc with hc | hc
    · exact isDigit_of_mem_toDigits hc
    · rw [List.eq_of_mem_replicate hc]
      rfl
  have hsmall : d.digits * 10 ^ e < 10 ^ 21 := by
    calc d.digits * 10 ^ e < 10 ^ k * 10 ^ e :=
          Nat.mul_lt_mul_of_pos_right hdenotes.high (by positivity)
      _ = 10 ^ (k + e) := (pow_add _ _ _).symm
      _ ≤ 10 ^ 21 := Nat.pow_le_pow_right (by decide) (by omega)
  have hend : ([] : List Char).takeWhile Char.isDigit = [] := rfl
  have hread := readInt_append hne hdigits hend
  rw [List.append_nil, decimal_append_zeros, decimal_toDigits, ← htext] at hread
  rw [hshortest, Option.getD_some]
  exact ⟨_, hsmall, hrounds, hread⟩

/-- **From 10²¹ on** only the first digit is read. -/
theorem readInt_large {q : Rat} (hq : 10 ^ 21 ≤ q) (h : Binary64.Representable q) :
    ∃ n : Nat, n ≤ 9 ∧
      readInt (String.ofList (decimalText ((Binary64.shortest q).getD ⟨0, 0⟩))) = some (n : Int) ∧
      readInt (String.ofList ('-' :: decimalText ((Binary64.shortest q).getD ⟨0, 0⟩))) =
        some (-(n : Int)) := by
  have hpos : 0 < q := lt_of_lt_of_le (by positivity) hq
  obtain ⟨d, hshortest⟩ := Option.isSome_iff_exists.mp (Binary64.shortest_isSome hpos h)
  obtain ⟨k, hk, hdenotes⟩ := Binary64.denotes_of_shortest hpos hshortest
  have hlength := length_toDigits hk hdenotes
  have hlarge : 22 ≤ Binary64.magnitude q := by
    have hlt := lt_of_le_of_lt hq (Binary64.magnitude_bounds hpos).2
    have hpow : (10 : Rat) ^ (21 : Int) < 10 ^ Binary64.magnitude q := by exact_mod_cast hlt
    have := Binary64.ten_zpow_lt_iff.mp hpow
    omega
  have hplace := hdenotes.place
  obtain ⟨c, cs, hdigits⟩ := List.exists_cons_of_ne_nil (Nat.toDigits_ne_nil (b := 10) (n := d.digits))
  have hc : c.isDigit = true := isDigit_of_mem_toDigits (hdigits ▸ List.mem_cons_self)
  obtain ⟨rest, htext, hrest⟩ : ∃ rest, decimalText d = [c] ++ rest ∧
      rest.takeWhile Char.isDigit = [] := by
    have hnot : ¬ (0 ≤ d.exponent ∧ d.exponent + k ≤ 21) ∧ ¬ (0 < d.exponent + k ∧
        d.exponent + k ≤ 21) ∧ ¬ (-6 < d.exponent + k ∧ d.exponent + k ≤ 0) := by omega
    simp only [decimalText, hlength, if_neg hnot.1, if_neg hnot.2.1, if_neg hnot.2.2]
    rw [hdigits, List.take_succ_cons, List.take_zero, List.drop_succ_cons, List.drop_zero,
      List.append_assoc, List.append_assoc]
    refine ⟨_, rfl, ?_⟩
    by_cases hone : k = 1
    · rw [if_pos hone]
      have hnil : cs = [] := by
        rw [hdigits, hone] at hlength
        exact List.length_eq_zero_iff.mp (Nat.succ.inj hlength)
      rw [hnil]
      rfl
    · rw [if_neg hone]
      rfl
  have hread := readInt_append (List.cons_ne_nil c []) (by simpa using hc) hrest
  rw [← htext] at hread
  rw [hshortest, Option.getD_some]
  refine ⟨_, ?_, hread⟩
  have hdigit : 48 ≤ c.toNat ∧ c.toNat ≤ 57 := by
    rw [Char.isDigit, Bool.and_eq_true, decide_eq_true_eq, decide_eq_true_eq] at hc
    exact hc
  have hvalue : decimal [c] = 10 * 0 + (c.toNat - 48) := rfl
  omega

/-- Not a number, or a whole one that is printed without an exponent. -/
def Plain (a : Double) : Prop :=
  match a.number with
  | .nan => True
  | .of q => (⌊q⌋ : Rat) = q ∧ |q| < 10 ^ 21
  | _ => False

instance (a : Double) : Decidable a.Plain := by
  unfold Plain
  split <;> infer_instance

/-- What is read at the front of the text of a number. -/
theorem readInt_finiteText {q : Rat} (hq : q ≠ 0) {n : Int}
    (h : readInt (String.ofList (decimalText ((Binary64.shortest |q|).getD ⟨0, 0⟩))) = some n ∧
      readInt (String.ofList ('-' :: decimalText ((Binary64.shortest |q|).getD ⟨0, 0⟩))) =
        some (-n)) :
    readInt (String.ofList (finiteText q)) = some (if q < 0 then -n else n) := by
  rw [finiteText, if_neg hq]
  by_cases hsign : q < 0
  · rw [if_pos hsign, if_pos hsign]
    exact h.2
  · rw [if_neg hsign, if_neg hsign]
    exact h.1

/-- `parseInt` gives no fraction. -/
theorem whole_of_parseInt {s : String} {q : Rat} (h : (parseInt s).number = .of q) :
    ∃ k : Int, q = k := by
  unfold parseInt at h
  split at h
  · next n hn =>
      obtain ⟨-, hround⟩ := Number.rounded_eq_of_iff.mp h
      obtain ⟨k, hk⟩ := (Binary64.whole_round_iff n).mpr (Binary64.nearWhole_intCast n)
      exact ⟨k, hround.symm.trans hk⟩
  · cases h

/-- The sign of a number does not count for its size. -/
theorem abs_signed {p : Prop} [Decidable p] (n : Nat) : |if p then -(n : Int) else n| = n := by
  split_ifs
  · rw [abs_neg, Nat.abs_cast]
  · exact Nat.abs_cast n

/-- `parseInt` rounds the integer it reads. -/
theorem parseInt_of_readInt {s : String} {n : Int} (h : readInt s = some n)
    (hsmall : |n| < 10 ^ 21) : (parseInt s).number = .of (Binary64.round n) := by
  have hbound : |(n : Rat)| < Binary64.overflow := by
    have hcast : |(n : Rat)| < 10 ^ 21 := by exact_mod_cast hsmall
    exact lt_trans hcast (by decide +kernel)
  rw [parseInt, h]
  exact Number.rounded_of hbound

/-- A whole number below 10²¹ is read back from its text. -/
theorem parseInt_whole {q : Rat} (hq : q ≠ 0) (hstored : Binary64.Representable q) {k : Int}
    (hk : q = k) (hend : |q| < 10 ^ 21) :
    (parseInt (String.ofList (finiteText q))).number = .of q := by
  have habs : |q| = k.natAbs := by
    rw [hk, Nat.cast_natAbs, Int.cast_abs]
  have hpos : 0 < k.natAbs := by
    have : (0 : Rat) < k.natAbs := habs ▸ abs_pos.mpr hq
    exact_mod_cast this
  have hround : Binary64.round (k.natAbs : Rat) = k.natAbs := by
    rw [← habs]
    exact Binary64.round_of_representable hstored.abs
  have hend' : k.natAbs < 10 ^ 21 := by
    rw [habs] at hend
    exact_mod_cast hend
  obtain ⟨n, hn, hrounds, hread⟩ := readInt_whole hpos hround hend'
  rw [← habs] at hread hrounds
  have hfinite := readInt_finiteText hq hread
  have hsmall : |if q < 0 then -(n : Int) else n| < 10 ^ 21 := by
    rw [abs_signed]
    exact_mod_cast hn
  rw [parseInt_of_readInt hfinite hsmall]
  by_cases hsign : q < 0
  · rw [if_pos hsign, Int.cast_neg, Binary64.round_neg, Int.cast_natCast, hrounds,
      abs_of_neg hsign, neg_neg]
  · rw [if_neg hsign, Int.cast_natCast, hrounds, abs_of_nonneg (not_lt.mp hsign)]

/-- Of a number from 10²¹ on, one digit is. -/
theorem parseInt_large {q : Rat} (hstored : Binary64.Representable q) (hend : 10 ^ 21 ≤ |q|) :
    (parseInt (String.ofList (finiteText q))).number ≠ .of q := by
  have hq : q ≠ 0 := by
    rintro rfl
    rw [abs_zero] at hend
    exact absurd hend (by norm_num)
  obtain ⟨n, hn, hread⟩ := readInt_large hend hstored.abs
  have hfinite := readInt_finiteText hq hread
  have hsmall : |if q < 0 then -(n : Int) else n| ≤ 9 := by
    rw [abs_signed]
    exact_mod_cast hn
  generalize (if q < 0 then -(n : Int) else n) = m at hfinite hsmall
  have hm : |m| < 2 ^ 53 := lt_of_le_of_lt hsmall (by decide)
  rw [parseInt_of_readInt hfinite (lt_of_le_of_lt hsmall (by decide)),
    Binary64.round_of_representable (Binary64.representable_intCast hm)]
  intro heq
  have hvalue : |q| ≤ 9 := by
    rw [← Number.of.inj heq]
    exact_mod_cast hsmall
  exact absurd (le_trans hend hvalue) (by norm_num)

/-- **`parseInt` reads back from their texts the whole numbers below 10²¹, and
`NaN`.** -/
theorem parseInt_toString_iff (a : Double) : parseInt a.toString = a ↔ a.Plain := by
  rw [Double.ext_iff]
  cases hnumber : a.number with
  | nan =>
      rw [toString, Plain, hnumber]
      exact iff_of_true rfl trivial
  | posInfinity =>
      rw [toString, Plain, hnumber]
      exact iff_of_false (by decide +kernel) not_false
  | negInfinity =>
      rw [toString, Plain, hnumber]
      exact iff_of_false (by decide +kernel) not_false
  | of q =>
      rw [toString, Plain, hnumber]
      have hstored := a.stored q hnumber
      constructor
      · intro hback
        obtain ⟨k, hk⟩ := whole_of_parseInt hback
        refine ⟨by rw [hk, Int.floor_intCast], lt_of_not_ge fun hend => ?_⟩
        exact parseInt_large hstored hend hback
      · rintro ⟨hwhole, hend⟩
        by_cases hq : q = 0
        · rw [hq]
          decide +kernel
        · exact parseInt_whole hq hstored hwhole.symm hend

/-- Such numbers are told apart by their texts. -/
theorem Plain.toString_inj {a b : Double} (ha : a.Plain) (hb : b.Plain) :
    a.toString = b.toString ↔ a = b := by
  refine ⟨fun h => ?_, congrArg toString⟩
  rw [← (parseInt_toString_iff a).mpr ha, h, (parseInt_toString_iff b).mpr hb]

end Double

example : (Double.ofNumber (.of (3 / 2))).toString = "1.5" ∧
    (Double.ofNumber (.of (10 ^ 21))).toString = "1e+21" ∧
    (Double.ofNumber (.of (1 / 10))).toString = "0.1" ∧
    (Double.ofNumber (.of (2 ^ 60))).toString = "1152921504606847000" ∧
    (Double.ofNumber (.of (-5 / 10 ^ 324))).toString = "-5e-324" := by decide +kernel

end Atlas.Js

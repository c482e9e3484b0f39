import Mathlib.Logic.Basic
import Mathlib.Tactic.Common
import Mathlib.Data.List.Basic

/-!
# Atlas.Lib.Json

JSON values and the text JavaScript prints for them.

A value is what is left once a JavaScript object has been stored and read
back: a number is the numeral it prints as, and the members of an object stand
in the order in which they are enumerated, so two values are equal exactly when
they are equal as JSON.  Strings are sequences of Unicode scalar values.

The printed text is uniquely readable, even when more text follows
(`stringify_cancel`), hence printing is injective (`stringify_inj`), and
equality of values is decided by comparing texts.
-/

namespace StoreKit

/-- The characters numerals are made of. -/
def isNumeralChar (c : Char) : Bool :=
  c.isDigit || c == '-' || c == '+' || c == '.' || c == 'e'

/-- A JSON number, as the numeral it prints as. -/
structure Numeral where
  chars : List Char
  nonempty : chars ≠ []
  numeric : chars.all isNumeralChar = true
deriving DecidableEq

inductive Json where
  | null
  | bool (b : Bool)
  | num (n : Numeral)
  | str (s : String)
  | arr (xs : List Json)
  | obj (ms : List (String × Json))

namespace Json

/-! ## Printing -/

/-- A hexadecimal digit, in lower case. -/
def hexDigit (n : Nat) : Char := "0123456789abcdef".toList.getD n '0'

/-- One character inside a string literal. -/
def escape (c : Char) : List Char :=
  if c = '"' then ['\\', '"']
  else if c = '\\' then ['\\', '\\']
  else if c = '\n' then ['\\', 'n']
  else if c = '\r' then ['\\', 'r']
  else if c = '\t' then ['\\', 't']
  else if c.toNat = 8 then ['\\', 'b']
  else if c.toNat = 12 then ['\\', 'f']
  else if c.toNat < 32 then ['\\', 'u', '0', '0', hexDigit (c.toNat / 16), hexDigit (c.toNat % 16)]
  else [c]

/-- The rest of a string literal, closing quote included. -/
def quoteTail : List Char → List Char
  | [] => ['"']
  | c :: cs => escape c ++ quoteTail cs

/-- A string literal. -/
def quote (s : String) : List Char := '"' :: quoteTail s.toList

mutual

/-- The text of a value. -/
def print : Json → List Char
  | .null => ['n', 'u', 'l', 'l']
  | .bool true => ['t', 'r', 'u', 'e']
  | .bool false => ['f', 'a', 'l', 's', 'e']
  | .num n => n.chars
  | .str s => quote s
  | .arr [] => ['[', ']']
  | .arr (x :: xs) => '[' :: (print x ++ printElems xs)
  | .obj [] => ['{', '}']
  | .obj (m :: ms) => '{' :: (printMember m ++ printMembers ms)

/-- The elements after the first, with the closing bracket. -/
def printElems : List Json → List Char
  | [] => [']']
  | x :: xs => ',' :: (print x ++ printElems xs)

/-- One member of an object. -/
def printMember : String × Json → List Char
  | (k, v) => quote k ++ ':' :: print v

/-- The members after the first, with the closing brace. -/
def printMembers : List (String × Json) → List Char
  | [] => ['}']
  | m :: ms => ',' :: (printMember m ++ printMembers ms)

end

/-- What `JSON.stringify` returns. -/
def stringify (v : Json) : String := String.ofList (print v)

mutual

/-- Every string in a value, keys included, satisfies `p`. -/
def all (p : String → Bool) : Json → Bool
  | .str s => p s
  | .arr xs => allElems p xs
  | .obj ms => allMembers p ms
  | _ => true

def allElems (p : String → Bool) : List Json → Bool
  | [] => true
  | x :: xs => all p x && allElems p xs

def allMember (p : String → Bool) : String × Json → Bool
  | (k, v) => p k && all p v

def allMembers (p : String → Bool) : List (String × Json) → Bool
  | [] => true
  | m :: ms => allMember p m && allMembers p ms

end

/-! ## String literals -/

/-- The value of a hexadecimal digit. -/
def hexValue (c : Char) : Nat := "0123456789abcdef".toList.idxOf c

/-- Read one character of a string literal back. -/
def unescape : List Char → Option (Char × List Char)
  | '\\' :: 'n' :: r => some ('\n', r)
  | '\\' :: 'r' :: r => some ('\r', r)
  | '\\' :: 't' :: r => some ('\t', r)
  | '\\' :: 'b' :: r => some ('\x08', r)
  | '\\' :: 'f' :: r => some ('\x0c', r)
  | '\\' :: 'u' :: '0' :: '0' :: h :: l :: r =>
      some (Char.ofNat (16 * hexValue h + hexValue l), r)
  | '\\' :: c :: r => some (c, r)
  | c :: r => some (c, r)
  | [] => none

/-- The two hexadecimal digits of a control character name it. -/
theorem hexValue_hexDigit (n : Nat) (h : n < 32) :
    16 * hexValue (hexDigit (n / 16)) + hexValue (hexDigit (n % 16)) = n := by
  revert n
  decide

/-- **Every escape is read back** as the character it stands for. -/
theorem unescape_escape (c : Char) (r : List Char) : unescape (escape c ++ r) = some (c, r) := by
  unfold escape
  split
  · next h => subst h; rfl
  split
  · next h => subst h; rfl
  split
  · next h => subst h; rfl
  split
  · next h => subst h; rfl
  split
  · next h => subst h; rfl
  split
  · next h =>
      have hc : c = '\x08' := by rw [← Char.ofNat_toNat c, h]
      subst hc; rfl
  split
  · next h =>
      have hc : c = '\x0c' := by rw [← Char.ofNat_toNat c, h]
      subst hc; rfl
  split
  · next h =>
      simp only [List.cons_append, List.nil_append, unescape, hexValue_hexDigit c.toNat h,
        Char.ofNat_toNat]
  · next hq hb _ _ _ _ _ _ =>
      simp [unescape, hb]

/-- Two escapes in front of a text that agree are of one character. -/
theorem escape_cancel {c d : Char} {r r' : List Char} (h : escape c ++ r = escape d ++ r') :
    c = d ∧ r = r' := by
  have hc := unescape_escape c r
  rw [h, unescape_escape] at hc
  simpa [eq_comm] using hc

/-- An escaped character never looks like the closing quote. -/
theorem escape_ne_quote (c : Char) (r r' : List Char) : escape c ++ r ≠ '"' :: r' := by
  intro h
  have hc := unescape_escape c r
  rw [h] at hc
  have hquote : c = '"' := by simpa [unescape, eq_comm] using (congrArg (Option.map Prod.fst) hc)
  subst hquote
  simp [escape] at h

/-- Two quoted strings that agree are one. -/
theorem quoteTail_cancel (cs : List Char) :
    ∀ {ds r r' : List Char}, quoteTail cs ++ r = quoteTail ds ++ r' → cs = ds ∧ r = r' := by
  induction cs with
  | nil =>
      intro ds r r' h
      cases ds with
      | nil => simpa [quoteTail] using h
      | cons d ds =>
          simp only [quoteTail, List.append_assoc] at h
          exact absurd h.symm (escape_ne_quote d _ _)
  | cons c cs ih =>
      intro ds r r' h
      cases ds with
      | nil =>
          simp only [quoteTail, List.append_assoc] at h
          exact absurd h (escape_ne_quote c _ _)
      | cons d ds =>
          simp only [quoteTail, List.append_assoc] at h
          obtain ⟨rfl, hrest⟩ := escape_cancel h
          obtain ⟨rfl, hr⟩ := ih hrest
          exact ⟨rfl, hr⟩

/-- A string literal is read off the front of any text. -/
theorem quote_cancel {s t : String} {r r' : List Char} (h : quote s ++ r = quote t ++ r') :
    s = t ∧ r = r' := by
  simp only [quote, List.cons_append, List.cons.injEq, true_and] at h
  obtain ⟨hchars, hr⟩ := quoteTail_cancel s.toList h
  exact ⟨String.toList_inj.mp hchars, hr⟩

/-! ## Values -/

/-- What may follow a value: the end, or a character no numeral contains. -/
def Delimited (r : List Char) : Prop := ∀ c ∈ r.head?, isNumeralChar c = false

/-- The end of the text ends a numeral. -/
theorem delimited_nil : Delimited [] := by
  intro c hc
  simp at hc

/-- Any character that is not one of a numeral ends it. -/
theorem delimited_cons {c : Char} (r : List Char) (h : isNumeralChar c = false) :
    Delimited (c :: r) := by
  intro d hd
  simp only [List.head?_cons, Option.mem_some_iff] at hd
  exact hd ▸ h

/-- A run of numeral characters ends where the delimiter starts. -/
theorem numeral_cancel (l : List Char) :
    ∀ {m r r' : List Char}, l.all isNumeralChar = true → m.all isNumeralChar = true →
      Delimited r → Delimited r' → l ++ r = m ++ r' → l = m ∧ r = r' := by
  induction l with
  | nil =>
      intro m r r' _ hm hr _ h
      cases m with
      | nil => exact ⟨rfl, h⟩
      | cons c m =>
          have hc : isNumeralChar c = true := by simp [List.all_cons] at hm; exact hm.1
          have hc' : isNumeralChar c = false := hr c (by simp [show r = c :: (m ++ r') from h])
          rw [hc] at hc'
          contradiction
  | cons c l ih =>
      intro m r r' hl hm hr hr' h
      simp only [List.all_cons, Bool.and_eq_true] at hl
      cases m with
      | nil =>
          have hc' : isNumeralChar c = false := hr' c (by simp [← show c :: (l ++ r) = r' from h])
          rw [hl.1] at hc'
          contradiction
      | cons d m =>
          simp only [List.all_cons, Bool.and_eq_true] at hm
          simp only [List.cons_append, List.cons.injEq] at h
          obtain ⟨rfl, hrest⟩ := h
          obtain ⟨rfl, hrr⟩ := ih hl.2 hm.2 hr hr' hrest
          exact ⟨rfl, hrr⟩

/-- The first character of a value tells a string, an array, an object and the
three names apart, and all of them from a numeral. -/
def tag : Json → Char
  | .null => 'n'
  | .bool true => 't'
  | .bool false => 'f'
  | .num n => n.chars.headD '0'
  | .str _ => '"'
  | .arr _ => '['
  | .obj _ => '{'

/-- What is printed begins with the tag of its kind. -/
theorem print_eq_cons (v : Json) : ∃ cs, print v = tag v :: cs := by
  cases v with
  | null => exact ⟨_, rfl⟩
  | bool b => cases b <;> exact ⟨_, rfl⟩
  | num n =>
      obtain ⟨chars, hne, hall⟩ := n
      cases chars with
      | nil => contradiction
      | cons c cs => exact ⟨cs, rfl⟩
  | str s => exact ⟨_, rfl⟩
  | arr xs => cases xs <;> exact ⟨_, rfl⟩
  | obj ms => cases ms <;> exact ⟨_, rfl⟩

/-- Two values that print alike are of one kind. -/
theorem tag_eq_of_print {v w : Json} {r r' : List Char} (h : print v ++ r = print w ++ r') :
    tag v = tag w := by
  obtain ⟨cs, hv⟩ := print_eq_cons v
  obtain ⟨ds, hw⟩ := print_eq_cons w
  rw [hv, hw] at h
  exact (List.cons.inj h).1

/-- Numbers begin with a character of a numeral. -/
theorem isNumeralChar_tag_num (n : Numeral) : isNumeralChar (tag (.num n)) = true := by
  obtain ⟨chars, hne, hall⟩ := n
  cases chars with
  | nil => contradiction
  | cons c cs =>
      simp only [List.all_cons, Bool.and_eq_true] at hall
      exact hall.1

/-- No value starts like the end of an array. -/
theorem tag_ne_bracket (v : Json) : tag v ≠ ']' := by
  cases v with
  | num n =>
      intro h
      have hn := isNumeralChar_tag_num n
      rw [h] at hn
      exact absurd hn (by decide)
  | bool b => cases b <;> decide
  | _ => simp [tag]

/-- The kind of a value is read off its first character. -/
theorem kind_of_tag (w : Json) :
    (tag w = 'n' → w = .null) ∧ (tag w = 't' → w = .bool true) ∧
      (tag w = 'f' → w = .bool false) ∧ (tag w = '"' → ∃ s, w = .str s) ∧
      (tag w = '[' → ∃ xs, w = .arr xs) ∧ (tag w = '{' → ∃ ms, w = .obj ms) ∧
      (isNumeralChar (tag w) = true → ∃ n, w = .num n) := by
  cases w with
  | null => simp [tag]; decide
  | bool b => cases b <;> simp [tag] <;> decide
  | num n =>
      have hn := isNumeralChar_tag_num n
      generalize tag (.num n) = c at hn
      refine ⟨?_, ?_, ?_, ?_, ?_, ?_, fun _ => ⟨n, rfl⟩⟩ <;>
        (rintro rfl; exact absurd hn (by decide))
  | str s => simp [tag]; decide
  | arr xs => simp [tag]; decide
  | obj ms => simp [tag]; decide

/-- A bracket or a comma follows every element. -/
theorem printElems_delimited (xs : List Json) (r : List Char) :
    Delimited (printElems xs ++ r) := by
  cases xs with
  | nil => exact delimited_cons r (by decide)
  | cons x xs => exact delimited_cons _ (by decide)

/-- A brace or a comma follows every member. -/
theorem printMembers_delimited (ms : List (String × Json)) (r : List Char) :
    Delimited (printMembers ms ++ r) := by
  cases ms with
  | nil => exact delimited_cons r (by decide)
  | cons m ms => exact delimited_cons _ (by decide)

mutual

/-- The text of a value is read off the front of any text that does not go on
with a numeral. -/
theorem print_cancel : (v : Json) → ∀ {w : Json} {r r' : List Char}, Delimited r →
    Delimited r' → print v ++ r = print w ++ r' → v = w ∧ r = r'
  | .null, w, r, r', _, _, h => by
      obtain rfl := (kind_of_tag w).1 (tag_eq_of_print h).symm
      exact ⟨rfl, List.append_cancel_left h⟩
  | .bool true, w, r, r', _, _, h => by
      obtain rfl := (kind_of_tag w).2.1 (tag_eq_of_print h).symm
      exact ⟨rfl, List.append_cancel_left h⟩
  | .bool false, w, r, r', _, _, h => by
      obtain rfl := (kind_of_tag w).2.2.1 (tag_eq_of_print h).symm
      exact ⟨rfl, List.append_cancel_left h⟩
  | .num n, w, r, r', hr, hr', h => by
      have ht : isNumeralChar (tag w) = true := tag_eq_of_print h ▸ isNumeralChar_tag_num n
      obtain ⟨m, rfl⟩ := (kind_of_tag w).2.2.2.2.2.2 ht
      obtain ⟨hchars, hrr⟩ := numeral_cancel n.chars n.numeric m.numeric hr hr' h
      obtain ⟨chars, _, _⟩ := n
      subst hchars
      exact ⟨rfl, hrr⟩
  | .str s, w, r, r', _, _, h => by
      obtain ⟨t, rfl⟩ := (kind_of_tag w).2.2.2.1 (tag_eq_of_print h).symm
      obtain ⟨rfl, hrr⟩ := quote_cancel h
      exact ⟨rfl, hrr⟩
  | .arr xs, w, r, r', _, _, h => by
      obtain ⟨ys, rfl⟩ := (kind_of_tag w).2.2.2.2.1 (tag_eq_of_print h).symm
      obtain ⟨rfl, hrr⟩ := printArr_cancel xs h
      exact ⟨rfl, hrr⟩
  | .obj ms, w, r, r', _, _, h => by
      obtain ⟨ns, rfl⟩ := (kind_of_tag w).2.2.2.2.2.1 (tag_eq_of_print h).symm
      obtain ⟨rfl, hrr⟩ := printObj_cancel ms h
      exact ⟨rfl, hrr⟩

/-- Two arrays that print alike are one. -/
theorem printArr_cancel : (xs : List Json) → ∀ {ys : List Json} {r r' : List Char},
    print (.arr xs) ++ r = print (.arr ys) ++ r' → xs = ys ∧ r = r'
  | [], [], r, r', h => ⟨rfl, by simpa [print] using h⟩
  | [], y :: ys, r, r', h => by
      obtain ⟨cs, hy⟩ := print_eq_cons y
      simp only [print, hy, List.cons_append, List.cons.injEq, true_and] at h
      exact absurd h.1.symm (tag_ne_bracket y)
  | x :: xs, [], r, r', h => by
      obtain ⟨cs, hx⟩ := print_eq_cons x
      simp only [print, hx, List.cons_append, List.cons.injEq, true_and] at h
      exact absurd h.1 (tag_ne_bracket x)
  | x :: xs, y :: ys, r, r', h => by
      simp only [print, List.cons_append, List.append_assoc, List.cons.injEq, true_and] at h
      obtain ⟨rfl, hrest⟩ :=
        print_cancel x (printElems_delimited xs r) (printElems_delimited ys r') h
      obtain ⟨rfl, hrr⟩ := printElems_cancel xs hrest
      exact ⟨rfl, hrr⟩

/-- Two rests of an array that print alike are one. -/
theorem printElems_cancel : (xs : List Json) → ∀ {ys : List Json} {r r' : List Char},
    printElems xs ++ r = printElems ys ++ r' → xs = ys ∧ r = r'
  | [], [], r, r', h => ⟨rfl, by simpa [printElems] using h⟩
  | [], y :: ys, r, r', h => by simp [printElems] at h
  | x :: xs, [], r, r', h => by simp [printElems] at h
  | x :: xs, y :: ys, r, r', h => by
      simp only [printElems, List.cons_append, List.append_assoc, List.cons.injEq, true_and] at h
      obtain ⟨rfl, hrest⟩ :=
        print_cancel x (printElems_delimited xs r) (printElems_delimited ys r') h
      obtain ⟨rfl, hrr⟩ := printElems_cancel xs hrest
      exact ⟨rfl, hrr⟩

/-- Two members that print alike are one. -/
theorem printMember_cancel : (m : String × Json) → ∀ {n : String × Json} {r r' : List Char},
    Delimited r → Delimited r' → printMember m ++ r = printMember n ++ r' → m = n ∧ r = r'
  | (k, v), (l, w), r, r', hr, hr', h => by
      simp only [printMember, List.append_assoc, List.cons_append] at h
      obtain ⟨rfl, hrest⟩ := quote_cancel h
      obtain ⟨rfl, hrr⟩ := print_cancel v hr hr' (List.cons.inj hrest).2
      exact ⟨rfl, hrr⟩

/-- Two objects that print alike are one. -/
theorem printObj_cancel : (ms : List (String × Json)) →
    ∀ {ns : List (String × Json)} {r r' : List Char},
    print (.obj ms) ++ r = print (.obj ns) ++ r' → ms = ns ∧ r = r'
  | [], [], r, r', h => ⟨rfl, by simpa [print] using h⟩
  | [], (k, v) :: ns, r, r', h => by simp [print, printMember, quote] at h
  | (k, v) :: ms, [], r, r', h => by simp [print, printMember, quote] at h
  | m :: ms, n :: ns, r, r', h => by
      simp only [print, List.cons_append, List.append_assoc, List.cons.injEq, true_and] at h
      obtain ⟨rfl, hrest⟩ :=
        printMember_cancel m (printMembers_delimited ms r) (printMembers_delimited ns r') h
      obtain ⟨rfl, hrr⟩ := printMembers_cancel ms hrest
      exact ⟨rfl, hrr⟩

/-- Two rests of an object that print alike are one. -/
theorem printMembers_cancel : (ms : List (String × Json)) →
    ∀ {ns : List (String × Json)} {r r' : List Char},
    printMembers ms ++ r = printMembers ns ++ r' → ms = ns ∧ r = r'
  | [], [], r, r', h => ⟨rfl, by simpa [printMembers] using h⟩
  | [], n :: ns, r, r', h => by simp [printMembers] at h
  | m :: ms, [], r, r', h => by simp [printMembers] at h
  | m :: ms, n :: ns, r, r', h => by
      simp only [printMembers, List.cons_append, List.append_assoc, List.cons.injEq,
        true_and] at h
      obtain ⟨rfl, hrest⟩ :=
        printMember_cancel m (printMembers_delimited ms r) (printMembers_delimited ns r') h
      obtain ⟨rfl, hrr⟩ := printMembers_cancel ms hrest
      exact ⟨rfl, hrr⟩

end

/-- **Printing is injective.** -/
theorem stringify_inj {v w : Json} : stringify v = stringify w ↔ v = w := by
  constructor
  · intro h
    have hchars : print v ++ [] = print w ++ [] := by
      simpa [stringify] using String.ofList_inj.mp h
    exact (print_cancel v delimited_nil delimited_nil hchars).1
  · exact congrArg stringify

/-- Two values are equal when their texts are. -/
instance : DecidableEq Json := fun v w => decidable_of_iff (stringify v = stringify w) stringify_inj

end Json

end StoreKit

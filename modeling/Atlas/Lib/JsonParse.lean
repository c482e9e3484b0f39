import Atlas.Lib.Json

/-!
# Atlas.Lib.JsonParse

Reading the text of a JSON value back.

`parse` reads what `stringify` prints, which has no white space between the
tokens; a numeral is the longest run of characters that numerals are made of.
The recursion is on a bound for the number of characters, and
`parse_stringify` says that every value is given back.
-/

namespace StoreKit

namespace Json

/-! ## Reading -/

/-- Read the rest of a string literal, closing quote included. -/
def readChars : Nat → List Char → Option (List Char × List Char)
  | 0, _ => none
  | n + 1, cs =>
    if cs.head? = some '"' then some ([], cs.tail)
    else do
      let (c, r) ← unescape cs
      let (cs, r) ← readChars n r
      some (c :: cs, r)

/-- Read a numeral. -/
def readNumeral (cs : List Char) : Option (Json × List Char) :=
  if h : cs.takeWhile isNumeralChar ≠ [] then
    some (.num ⟨cs.takeWhile isNumeralChar, h, List.all_takeWhile⟩, cs.dropWhile isNumeralChar)
  else none

/-- Read the rest of a name. -/
def readName (name : List Char) (v : Json) (cs : List Char) : Option (Json × List Char) :=
  if name.isPrefixOf cs then some (v, cs.drop name.length) else none

mutual

/-- Read a value off the front of a text. -/
def readValue : Nat → List Char → Option (Json × List Char)
  | n + 1, c :: r =>
    if c = '"' then (readChars n r).map fun (cs, r) => (.str (String.ofList cs), r)
    else if c = '[' then
      if r.head? = some ']' then some (.arr [], r.tail)
      else do
        let (x, r) ← readValue n r
        let (xs, r) ← readElems n r
        some (.arr (x :: xs), r)
    else if c = '{' then
      if r.head? = some '}' then some (.obj [], r.tail)
      else do
        let (m, r) ← readMember n r
        let (ms, r) ← readMembers n r
        some (.obj (m :: ms), r)
    else if c = 'n' then readName ['u', 'l', 'l'] .null r
    else if c = 't' then readName ['r', 'u', 'e'] (.bool true) r
    else if c = 'f' then readName ['a', 'l', 's', 'e'] (.bool false) r
    else readNumeral (c :: r)
  | _, _ => none

/-- Read the elements after the first, with the closing bracket. -/
def readElems : Nat → List Char → Option (List Json × List Char)
  | n + 1, c :: r =>
    if c = ']' then some ([], r)
    else if c = ',' then do
      let (x, r) ← readValue n r
      let (xs, r) ← readElems n r
      some (x :: xs, r)
    else none
  | _, _ => none

/-- Read one member of an object. -/
def readMember : Nat → List Char → Option ((String × Json) × List Char)
  | n + 1, '"' :: r => do
      let (k, r) ← readChars n r
      if r.head? = some ':' then do
        let (v, r) ← readValue n r.tail
        some ((String.ofList k, v), r)
      else none
  | _, _ => none

/-- Read the members after the first, with the closing brace. -/
def readMembers : Nat → List Char → Option (List (String × Json) × List Char)
  | n + 1, c :: r =>
    if c = '}' then some ([], r)
    else if c = ',' then do
      let (m, r) ← readMember n r
      let (ms, r) ← readMembers n r
      some (m :: ms, r)
    else none
  | _, _ => none

end

/-- `JSON.parse`. -/
def parse (s : String) : Option Json :=
  match readValue (s.toList.length + 1) s.toList with
  | some (v, []) => some v
  | _ => none

/-! ## What is printed is read back -/

/-- The characters of a quoted string are read back. -/
theorem readChars_quoteTail (cs : List Char) :
    ∀ {n : Nat} {r : List Char}, cs.length < n → readChars n (quoteTail cs ++ r) = some (cs, r) := by
  induction cs with
  | nil =>
      intro n r hn
      cases n with
      | zero => contradiction
      | succ n => rfl
  | cons c cs ih =>
      intro n r hn
      cases n with
      | zero => contradiction
      | succ n =>
          have hrest : readChars n (quoteTail cs ++ r) = some (cs, r) :=
            ih (Nat.lt_of_succ_lt_succ hn)
          have hquote : (escape c ++ (quoteTail cs ++ r)).head? ≠ some '"' := by
            intro h
            obtain ⟨r', hr'⟩ := List.head?_eq_some_iff.mp h
            exact escape_ne_quote c _ _ hr'
          simp only [quoteTail, List.append_assoc, readChars, if_neg hquote, unescape_escape,
            hrest, Option.bind_eq_bind, Option.bind_some]

/-- A numeral ends where the delimiter starts. -/
theorem readNumeral_append (n : Numeral) {r : List Char} (hr : Delimited r) :
    readNumeral (n.chars ++ r) = some (.num n, r) := by
  have hall : ∀ c ∈ n.chars, isNumeralChar c = true := List.all_eq_true.mp n.numeric
  have hstop : r.takeWhile isNumeralChar = [] ∧ r.dropWhile isNumeralChar = r := by
    cases r with
    | nil => exact ⟨rfl, rfl⟩
    | cons c r =>
        have hc : isNumeralChar c = false := hr c rfl
        exact ⟨by simp [hc], by simp [hc]⟩
  have htake : (n.chars ++ r).takeWhile isNumeralChar = n.chars := by
    rw [List.takeWhile_append_of_pos hall, hstop.1, List.append_nil]
  have hdrop : (n.chars ++ r).dropWhile isNumeralChar = r := by
    rw [List.dropWhile_append_of_pos hall, hstop.2]
  have hne : (n.chars ++ r).takeWhile isNumeralChar ≠ [] := by
    rw [htake]
    exact n.nonempty
  rw [readNumeral, dif_pos hne]
  simp only [htake, hdrop]

/-- A quoted string is longer than the string. -/
theorem length_quoteTail (cs : List Char) : cs.length < (quoteTail cs).length := by
  induction cs with
  | nil => decide
  | cons c cs ih =>
      have hescape : 0 < (escape c).length := by
        unfold escape
        repeat' split
        all_goals exact Nat.succ_pos _
      rw [quoteTail, List.length_append, List.length_cons]
      omega

mutual

/-- A value is read off the front of a text that does not go on with a
numeral, given as much fuel as it has characters. -/
theorem readValue_print : (v : Json) → ∀ {n : Nat} {r : List Char}, (print v).length < n →
    Delimited r → readValue n (print v ++ r) = some (v, r)
  | v, 0, r, hn, _ => by contradiction
  | .null, n + 1, r, _, _ => rfl
  | .bool true, n + 1, r, _, _ => rfl
  | .bool false, n + 1, r, _, _ => rfl
  | .num m, n + 1, r, _, hr => by
      have hread := readNumeral_append m hr
      have htag := isNumeralChar_tag_num m
      obtain ⟨cs, hcs⟩ := print_eq_cons (.num m)
      have hchars : m.chars = tag (.num m) :: cs := hcs
      have hne : ∀ c, isNumeralChar c = false → tag (.num m) ≠ c := by
        rintro c hc rfl
        rw [htag] at hc
        contradiction
      rw [hcs, List.cons_append, readValue, if_neg (hne _ (by decide)), if_neg (hne _ (by decide)),
        if_neg (hne _ (by decide)), if_neg (hne _ (by decide)), if_neg (hne _ (by decide)),
        if_neg (hne _ (by decide)), ← List.cons_append, ← hchars, hread]
  | .str s, n + 1, r, hn, _ => by
      have hlength := length_quoteTail s.toList
      simp only [print, quote, List.length_cons] at hn
      simp only [print, quote, List.cons_append, readValue, if_true,
        readChars_quoteTail s.toList (by omega : s.toList.length < n), Option.map_some,
        String.ofList_toList]
  | .arr [], n + 1, r, _, _ => rfl
  | .arr (x :: xs), n + 1, r, hn, _ => by
      simp only [print, List.length_cons, List.length_append] at hn
      have hx := readValue_print x (by omega : (print x).length < n) (printElems_delimited xs r)
      have hxs := readElems_print xs (by omega : (printElems xs).length < n) (r := r)
      have hhead : (print x ++ (printElems xs ++ r)).head? ≠ some ']' := by
        obtain ⟨cs, hcs⟩ := print_eq_cons x
        rw [hcs, List.cons_append, List.head?_cons]
        simpa using tag_ne_bracket x
      simp only [print, List.cons_append, List.append_assoc, readValue, if_neg hhead, hx, hxs,
        Option.bind_eq_bind, Option.bind_some]
      rfl
  | .obj [], n + 1, r, _, _ => rfl
  | .obj (m :: ms), n + 1, r, hn, _ => by
      simp only [print, List.length_cons, List.length_append] at hn
      have hm := readMember_print m (by omega : (printMember m).length < n)
        (printMembers_delimited ms r)
      have hms := readMembers_print ms (by omega : (printMembers ms).length < n) (r := r)
      have hhead : (printMember m ++ (printMembers ms ++ r)).head? ≠ some '}' := by
        obtain ⟨k, v⟩ := m
        simp [printMember, quote]
      simp only [print, List.cons_append, List.append_assoc, readValue, if_neg hhead, hm, hms,
        Option.bind_eq_bind, Option.bind_some]
      rfl

/-- The elements of an array are read back. -/
theorem readElems_print : (xs : List Json) → ∀ {n : Nat} {r : List Char},
    (printElems xs).length < n → readElems n (printElems xs ++ r) = some (xs, r)
  | xs, 0, r, hn => by contradiction
  | [], n + 1, r, _ => rfl
  | x :: xs, n + 1, r, hn => by
      simp only [printElems, List.length_cons, List.length_append] at hn
      have hx := readValue_print x (by omega : (print x).length < n) (printElems_delimited xs r)
      have hxs := readElems_print xs (by omega : (printElems xs).length < n) (r := r)
      simp only [printElems, List.cons_append, List.append_assoc, readElems, hx, hxs,
        Option.bind_eq_bind, Option.bind_some]
      rfl

/-- A member is read back. -/
theorem readMember_print : (m : String × Json) → ∀ {n : Nat} {r : List Char},
    (printMember m).length < n → Delimited r →
    readMember n (printMember m ++ r) = some (m, r)
  | m, 0, r, hn, _ => by contradiction
  | (k, v), n + 1, r, hn, hr => by
      have hlength := length_quoteTail k.toList
      simp only [printMember, quote, List.length_cons, List.length_append] at hn
      have hk := readChars_quoteTail k.toList (by omega : k.toList.length < n)
        (r := ':' :: (print v ++ r))
      have hv := readValue_print v (by omega : (print v).length < n) hr
      simp only [printMember, quote, List.cons_append, List.append_assoc, readMember, hk, hv,
        List.head?_cons, List.tail_cons, Option.bind_eq_bind, Option.bind_some, if_true,
        String.ofList_toList]

/-- The members of an object are read back. -/
theorem readMembers_print : (ms : List (String × Json)) → ∀ {n : Nat} {r : List Char},
    (printMembers ms).length < n → readMembers n (printMembers ms ++ r) = some (ms, r)
  | ms, 0, r, hn => by contradiction
  | [], n + 1, r, _ => rfl
  | m :: ms, n + 1, r, hn => by
      simp only [printMembers, List.length_cons, List.length_append] at hn
      have hm := readMember_print m (by omega : (printMember m).length < n)
        (printMembers_delimited ms r)
      have hms := readMembers_print ms (by omega : (printMembers ms).length < n) (r := r)
      simp only [printMembers, List.cons_append, List.append_assoc, readMembers, hm, hms,
        Option.bind_eq_bind, Option.bind_some]
      rfl

end

/-- **Every value is read back from its text.** -/
theorem parse_stringify (v : Json) : parse (stringify v) = some v := by
  have hread := readValue_print v (Nat.lt_succ_self (print v).length) delimited_nil
  rw [List.append_nil] at hread
  rw [parse, stringify, String.toList_ofList, hread]

end Json

end StoreKit

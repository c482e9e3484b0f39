import Mathlib.Data.List.Lex
import Mathlib.Tactic.Common
import Atlas.Double
import Atlas.Lib.JsonOrder

/-!
# Atlas.Pg

What the columns of the database make of the values sent to them: each
function answers what will be read back, or `none` when the statement is
refused.

Text cannot hold the NUL character.  A `uuid` column accepts several spellings
of one identifier and gives back the lower-case hyphenated one, so two strings
that differ can name the same row; `uuid_uuid` says that the spelling given
back is its own.
-/

namespace Atlas.Pg

open StoreKit

/-! ## Text -/

/-- `text`. -/
def text (s : String) : Option String := if s.toList.contains '\x00' then none else some s

/-- `varchar(n)`.  Blanks past the end are cut off, anything else is refused. -/
def varchar (n : Nat) (s : String) : Option String :=
  if s.toList.contains '\x00' then none
  else if s.length ≤ n then some s
  else if (s.toList.drop n).all (· == ' ') then some (String.ofList (s.toList.take n))
  else none

/-- A nullable column. -/
def nullable {α β : Type} (column : α → Option β) : Option α → Option (Option β)
  | none => some none
  | some a => (column a).map some

/-- A text column gives back what it was given. -/
theorem text_eq {s t : String} (h : text s = some t) : t = s := by
  unfold text at h
  split at h
  · contradiction
  · exact (Option.some.inj h).symm

/-- A text that is short enough is stored as it is. -/
theorem varchar_eq {n : Nat} {s t : String} (hlength : s.length ≤ n) (h : varchar n s = some t) :
    t = s := by
  unfold varchar at h
  split at h
  · contradiction
  · exact (Option.some.inj h).symm

/-- What `varchar` stores has no NUL character. -/
theorem text_varchar {n : Nat} {s t : String} (h : varchar n s = some t) : text t = some t := by
  unfold varchar at h
  split at h
  · contradiction
  · next hnul =>
      have htext : ∀ u : String, (∀ c ∈ u.toList, c ∈ s.toList) → text u = some u := by
        intro u hsub
        have hcontains : u.toList.contains '\x00' = false := by
          simp only [Bool.not_eq_true, List.contains_eq_mem, decide_eq_false_iff_not] at hnul ⊢
          exact fun hmem => hnul (hsub _ hmem)
        rw [text, hcontains]
        rfl
      split at h
      · obtain rfl := Option.some.inj h
        exact htext s fun c hc => hc
      · split at h
        · obtain rfl := Option.some.inj h
          refine htext _ fun c hc => ?_
          rw [String.toList_ofList] at hc
          exact List.mem_of_mem_take hc
        · contradiction

/-- What `varchar` accepts, a `text` column stores as it is. -/
theorem text_of_varchar {n : Nat} {s t : String} (h : varchar n s = some t) :
    text s = some s := by
  unfold varchar at h
  split at h
  · contradiction
  · next hnul => rw [text, if_neg hnul]

/-- What `varchar` gives back, it stores unchanged. -/
theorem varchar_varchar {n : Nat} {s t : String} (h : varchar n s = some t) :
    varchar n t = some t := by
  have htext := text_varchar h
  have hlength : t.length ≤ n := by
    unfold varchar at h
    split at h
    · contradiction
    · split at h
      · next hle => exact Option.some.inj h ▸ hle
      · split at h
        · obtain rfl := Option.some.inj h
          simp only [String.length_ofList, List.length_take]
          omega
        · contradiction
  unfold text at htext
  split at htext
  · contradiction
  · next hnul => rw [varchar, if_neg hnul, if_pos hlength]

/-- A column that gives back what it stores unchanged does so when it is
nullable. -/
theorem nullable_nullable {α : Type} {column : α → Option α}
    (hcolumn : ∀ a b, column a = some b → column b = some b) {o o' : Option α}
    (h : nullable column o = some o') : nullable column o' = some o' := by
  cases o with
  | none =>
      obtain rfl := Option.some.inj h
      rfl
  | some a =>
      obtain ⟨b, hb, rfl⟩ := Option.map_eq_some_iff.mp h
      rw [nullable, hcolumn a b hb]
      rfl

/-- A column that stores its values as they are does so when it is nullable. -/
theorem nullable_eq {α : Type} {column : α → Option α} (hcolumn : ∀ a b, column a = some b → b = a)
    {o o' : Option α} (h : nullable column o = some o') : o' = o := by
  cases o with
  | none => exact (Option.some.inj h).symm
  | some a =>
      obtain ⟨b, hb, hsome⟩ := Option.map_eq_some_iff.mp h
      rw [← hsome, hcolumn a b hb]

/-- Each of several rows is what the columns make of one that was sent. -/
theorem mem_of_mapM {α β : Type} {column : α → Option β} {sent : List α} {rows : List β} {row : β}
    (h : sent.mapM column = some rows) (hrow : row ∈ rows) : ∃ a ∈ sent, column a = some row := by
  induction sent generalizing rows with
  | nil =>
      obtain rfl := Option.some.inj h
      simp at hrow
  | cons a sent ih =>
      rw [List.mapM_cons] at h
      obtain ⟨first, hfirst, hrest⟩ := Option.bind_eq_some_iff.mp h
      obtain ⟨rest, hmap, hpure⟩ := Option.bind_eq_some_iff.mp hrest
      obtain rfl := Option.some.inj hpure
      rcases List.mem_cons.mp hrow with rfl | hmem
      · exact ⟨a, List.mem_cons_self, hfirst⟩
      · obtain ⟨b, hb, hcolumn⟩ := ih hmap hmem
        exact ⟨b, List.mem_cons_of_mem _ hb, hcolumn⟩

/-! ## JSON -/

/-- A key that JavaScript takes for the index of an array. -/
def arrayIndex (key : String) : Option Nat :=
  let n := Js.decimal key.toList
  if key.toList = Nat.toDigits 10 n ∧ n < 4294967295 then some n else none

/-- Where the member of a key is enumerated once it is read back: the indices of
arrays come first, and the other keys as `jsonb` has them, the ones of fewer
bytes before the others. -/
def rank (key : String) : List Nat :=
  match arrayIndex key with
  | some n => [0, n]
  | none => 1 :: (key.toList.map Char.utf8Size).sum :: key.toList.map Char.toNat

/-- A key that is an array index is written as the number is. -/
theorem toList_of_arrayIndex {key : String} {n : Nat} (h : arrayIndex key = some n) :
    key.toList = Nat.toDigits 10 n := by
  simp only [arrayIndex] at h
  split at h
  · next hindex =>
      obtain rfl := Option.some.inj h
      exact hindex.1
  · contradiction

/-- **No two keys have the same place** in an object. -/
theorem rank_injective : Function.Injective rank := by
  intro a b h
  rw [← String.toList_inj]
  unfold rank at h
  cases ha : arrayIndex a with
  | some n =>
      cases hb : arrayIndex b with
      | some m =>
          simp only [ha, hb, List.cons.injEq, and_true, true_and] at h
          rw [toList_of_arrayIndex ha, toList_of_arrayIndex hb, h]
      | none => simp [ha, hb] at h
  | none =>
      cases hb : arrayIndex b with
      | some m => simp [ha, hb] at h
      | none =>
          simp only [ha, hb, List.cons.injEq, true_and] at h
          exact List.map_injective_iff.mpr (fun _ _ => Char.toNat_inj.mp) h.2

/-- `jsonb`, sent as the text of a value.  Of an object it keeps the last member
of each key, in an order of its own. -/
def jsonb (v : Json) : Option Json :=
  if v.all fun s => !s.toList.contains '\x00' then some (v.ordered rank) else none

/-- `jsonb`, sent an object. -/
def jsonObject (members : List (String × Json)) : Option (List (String × Json)) :=
  (jsonb (.obj members)).map fun _ => Json.orderedMembers rank members

/-- A jsonb column takes what has no zero byte in a string. -/
theorem jsonb_isSome (v : Json) :
    (jsonb v).isSome = v.all fun s => !s.toList.contains '\x00' := by
  unfold jsonb
  split
  · next h => rw [h, Option.isSome_some]
  · next h => rw [Bool.eq_false_iff.mpr h, Option.isSome_none]

/-- What is read back is stored as it is. -/
theorem jsonb_jsonb {v w : Json} (h : jsonb v = some w) : jsonb w = some w := by
  unfold jsonb at h
  split at h
  · next hall =>
      obtain rfl := Option.some.inj h
      rw [jsonb, if_pos (Json.all_ordered _ v hall), Json.ordered_ordered rank_injective]
  · contradiction

/-- A jsonb column gives back the members in the order of their keys. -/
theorem jsonObject_eq {members members' : List (String × Json)}
    (h : jsonObject members = some members') : members' = Json.orderedMembers rank members := by
  obtain ⟨_, -, heq⟩ := Option.map_eq_some_iff.mp h
  exact heq.symm

/-- The object is what the column makes of the value. -/
theorem jsonb_of_jsonObject {members members' : List (String × Json)}
    (h : jsonObject members = some members') : jsonb (.obj members) = some (.obj members') := by
  obtain ⟨v, hv, rfl⟩ := Option.map_eq_some_iff.mp h
  rw [hv]
  unfold jsonb at hv
  split at hv
  · rw [← Option.some.inj hv, Json.ordered]
  · contradiction

theorem jsonObject_isSome (members : List (String × Json)) :
    (jsonObject members).isSome = (jsonb (.obj members)).isSome := Option.isSome_map

/-- What a jsonb column gives back it takes and gives back again. -/
theorem jsonObject_jsonObject {members members' : List (String × Json)}
    (h : jsonObject members = some members') : jsonObject members' = some members' := by
  have hback := jsonb_jsonb (jsonb_of_jsonObject h)
  rw [jsonObject, hback, jsonObject_eq h]
  exact congrArg some (Json.orderedMembers_orderedMembers rank_injective members)

/-- What a `text` column stores may stand in a JSON value. -/
theorem jsonb_str {s t : String} (h : text s = some t) : (jsonb (.str s)).isSome = true := by
  rw [jsonb_isSome, Json.all]
  unfold text at h
  split at h
  · contradiction
  · next hnul => rw [Bool.eq_false_iff.mpr hnul, Bool.not_false]

/-- An object may, whose keys and values may. -/
theorem jsonb_obj {members : List (String × Json)}
    (h : ∀ m ∈ members, (jsonb (.str m.1)).isSome = true ∧ (jsonb m.2).isSome = true) :
    (jsonb (.obj members)).isSome = true := by
  simp only [jsonb_isSome, Json.all] at h ⊢
  exact (Json.allMembers_iff _ members).mpr h

example : jsonObject [("name", .null), ("id", .bool true), ("10", .null), ("9", .null),
    ("id", .bool false)] =
    some [("9", .null), ("10", .null), ("id", .bool false), ("name", .null)] := by decide +kernel

/-! ## Numbers and instants -/

/-- `integer`, given a count. -/
def int4 (n : Int) : Option Int := if -2147483648 ≤ n ∧ n ≤ 2147483647 then some n else none

/-- `integer`, given the text of any `number`: only a whole one is taken. -/
def int4OfNumber (a : Js.Double) : Option Js.Double :=
  match a.number with
  | .of q => if (⌊q⌋ : Rat) = q ∧ (int4 ⌊q⌋).isSome then some a else none
  | _ => none

/-- A number that the column takes it gives back. -/
theorem int4OfNumber_eq {a b : Js.Double} (h : int4OfNumber a = some b) : b = a := by
  unfold int4OfNumber at h
  split at h
  · split at h
    · exact (Option.some.inj h).symm
    · contradiction
  · contradiction

/-- What is stored is printed without an exponent. -/
theorem int4OfNumber_plain {a b : Js.Double} (h : int4OfNumber a = some b) : a.Plain := by
  unfold int4OfNumber at h
  split at h
  · next q hq =>
      split at h
      · next hstored =>
          obtain ⟨hwhole, hint4⟩ := hstored
          obtain ⟨n, hn⟩ := Option.isSome_iff_exists.mp hint4
          unfold int4 at hn
          split at hn
          · next hrange =>
              rw [Js.Double.Plain, hq]
              refine ⟨hwhole, ?_⟩
              have hsmall : |⌊q⌋| < 10 ^ 21 := by
                rw [abs_lt]
                constructor <;> omega
              rw [← hwhole]
              exact_mod_cast hsmall
          · contradiction
      · contradiction
  · contradiction

/-- `timestamptz`: no instant before 4713 BC. -/
def timestamptz (d : Js.Date) : Option Js.Date := if -210866803200000 ≤ d then some d else none

/-- An instant that the column takes it gives back. -/
theorem timestamptz_eq {d d' : Js.Date} (h : timestamptz d = some d') : d' = d := by
  unfold timestamptz at h
  split at h
  · exact (Option.some.inj h).symm
  · contradiction

theorem timestamptz_timestamptz {d d' : Js.Date} (h : timestamptz d = some d') :
    timestamptz d' = some d' := by
  obtain rfl := timestamptz_eq h
  exact h

/-- Either of two nullable values that are given back unchanged is. -/
theorem nullable_or {α : Type} {column : α → Option α} {a b : Option α}
    (ha : nullable column a = some a) (hb : nullable column b = some b) :
    nullable column (a.or b) = some (a.or b) := by
  cases a with
  | none => exact hb
  | some x => exact ha

/-! ## Identifiers -/

/-- What every numeral in `Fin 16` rests on. -/
instance (priority := 2000) neZero_sixteen : @NeZero Nat Zero.ofOfNat0 16 := ⟨by decide⟩

/-- A hexadecimal digit of either case. -/
def hexValue (c : Char) : Option (Fin 16) :=
  "0123456789abcdef".toList.finIdxOf? c.toLower

def hexChar (d : Fin 16) : Char := "0123456789abcdef".toList.get d

theorem hexValue_hexChar (d : Fin 16) : hexValue (hexChar d) = some d := by
  revert d
  decide

/-- No hexadecimal digit is a hyphen or a brace. -/
theorem hexChar_ne (d : Fin 16) : hexChar d ≠ '-' ∧ hexChar d ≠ '\x7b' := by
  revert d
  decide

/-- Four hexadecimal digits. -/
structure Group where
  a : Fin 16
  b : Fin 16
  c : Fin 16
  d : Fin 16
deriving DecidableEq

def Group.chars (g : Group) : List Char := [hexChar g.a, hexChar g.b, hexChar g.c, hexChar g.d]

def group? : List Char → Option (Group × List Char)
  | a :: b :: c :: d :: r => do
      let a ← hexValue a
      let b ← hexValue b
      let c ← hexValue c
      let d ← hexValue d
      some (⟨a, b, c, d⟩, r)
  | _ => none

/-- A hyphen is optional after every group. -/
def skipHyphen : List Char → List Char
  | '-' :: r => r
  | r => r

/-- A 128-bit identifier. -/
structure Uuid where
  g₁ : Group
  g₂ : Group
  g₃ : Group
  g₄ : Group
  g₅ : Group
  g₆ : Group
  g₇ : Group
  g₈ : Group
deriving DecidableEq

/-- The spelling the database gives back. -/
def Uuid.chars (u : Uuid) : List Char :=
  u.g₁.chars ++ (u.g₂.chars ++ '-' :: (u.g₃.chars ++ '-' :: (u.g₄.chars ++ '-' ::
    (u.g₅.chars ++ '-' :: (u.g₆.chars ++ (u.g₇.chars ++ u.g₈.chars))))))

/-- Read thirty-two digits with optional hyphens. -/
def uuidDigits? (cs : List Char) : Option (Uuid × List Char) := do
  let (g₁, cs) ← group? cs
  let (g₂, cs) ← group? (skipHyphen cs)
  let (g₃, cs) ← group? (skipHyphen cs)
  let (g₄, cs) ← group? (skipHyphen cs)
  let (g₅, cs) ← group? (skipHyphen cs)
  let (g₆, cs) ← group? (skipHyphen cs)
  let (g₇, cs) ← group? (skipHyphen cs)
  let (g₈, cs) ← group? (skipHyphen cs)
  some (⟨g₁, g₂, g₃, g₄, g₅, g₆, g₇, g₈⟩, cs)

/-- The identifier read, if `tail` is all that is left. -/
def endingWith (tail : List Char) : Option (Uuid × List Char) → Option Uuid
  | some (u, r) => if r = tail then some u else none
  | none => none

/-- Braces may enclose the digits. -/
def uuid? (s : String) : Option Uuid :=
  match s.toList with
  | '\x7b' :: cs => endingWith ['\x7d'] (uuidDigits? cs)
  | cs => endingWith [] (uuidDigits? cs)

/-- `uuid`. -/
def uuid (s : String) : Option String := (uuid? s).map fun u => String.ofList u.chars

/-- Four hexadecimal digits are read back. -/
@[simp] theorem group?_chars (g : Group) (r : List Char) :
    group? (g.chars ++ r) = some (g, r) := by
  simp [Group.chars, group?, hexValue_hexChar]

@[simp] theorem skipHyphen_hyphen (r : List Char) : skipHyphen ('-' :: r) = r := rfl

@[simp] theorem skipHyphen_chars (g : Group) (r : List Char) :
    skipHyphen (g.chars ++ r) = g.chars ++ r := by
  simp only [Group.chars, List.cons_append]
  unfold skipHyphen
  split
  · next h => exact absurd (List.cons.inj h).1 (hexChar_ne g.a).1
  · rfl

/-- The digits of a uuid are read back. -/
theorem uuidDigits?_chars (u : Uuid) : uuidDigits? u.chars = some (u, []) := by
  have hlast : u.g₈.chars = u.g₈.chars ++ [] := (List.append_nil _).symm
  rw [Uuid.chars, hlast]
  simp only [uuidDigits?, group?_chars, skipHyphen_chars, skipHyphen_hyphen, Option.bind_eq_bind,
    Option.bind_some]

/-- The spelling given back names the same identifier. -/
theorem uuid?_chars (u : Uuid) : uuid? (String.ofList u.chars) = some u := by
  have hne : ∀ cs, u.chars ≠ '\x7b' :: cs := by
    intro cs h
    exact (hexChar_ne u.g₁.a).2 (List.cons.inj h).1
  simp [uuid?, uuidDigits?_chars, endingWith]

/-- **What a `uuid` column gives back, it accepts and gives back unchanged.** -/
theorem uuid_uuid {s t : String} (h : uuid s = some t) : uuid t = some t := by
  unfold uuid at h
  cases hu : uuid? s with
  | none => simp [hu] at h
  | some u =>
      have ht : String.ofList u.chars = t := by simpa [hu] using h
      rw [← ht, uuid, uuid?_chars]
      rfl

/-- Reading a group passes over nothing but hexadecimal digits. -/
theorem mem_of_group? {cs r : List Char} {g : Group} {x : Char} (h : group? cs = some (g, r))
    (hhex : hexValue x = none) (hmem : x ∈ cs) : x ∈ r := by
  unfold group? at h
  split at h
  · next a b c d rest =>
      obtain ⟨_, ha, h⟩ := Option.bind_eq_some_iff.mp h
      obtain ⟨_, hb, h⟩ := Option.bind_eq_some_iff.mp h
      obtain ⟨_, hc, h⟩ := Option.bind_eq_some_iff.mp h
      obtain ⟨_, hd, h⟩ := Option.bind_eq_some_iff.mp h
      obtain ⟨-, rfl⟩ := Prod.mk.inj (Option.some.inj h)
      simp only [List.mem_cons] at hmem
      rcases hmem with rfl | rfl | rfl | rfl | hmem
      · rw [hhex] at ha; contradiction
      · rw [hhex] at hb; contradiction
      · rw [hhex] at hc; contradiction
      · rw [hhex] at hd; contradiction
      · exact hmem
  · contradiction

/-- Nothing but a hyphen is skipped. -/
theorem mem_skipHyphen {cs : List Char} {x : Char} (hne : x ≠ '-') (hmem : x ∈ cs) :
    x ∈ skipHyphen cs := by
  unfold skipHyphen
  split
  · next r => exact (List.mem_cons.mp hmem).resolve_left hne
  · exact hmem

/-- A character that is none of a uuid is left unread. -/
theorem mem_of_uuidDigits? {cs r : List Char} {u : Uuid} {x : Char}
    (h : uuidDigits? cs = some (u, r)) (hhex : hexValue x = none) (hne : x ≠ '-')
    (hmem : x ∈ cs) : x ∈ r := by
  obtain ⟨⟨g₁, r₁⟩, h₁, h⟩ := Option.bind_eq_some_iff.mp h
  obtain ⟨⟨g₂, r₂⟩, h₂, h⟩ := Option.bind_eq_some_iff.mp h
  obtain ⟨⟨g₃, r₃⟩, h₃, h⟩ := Option.bind_eq_some_iff.mp h
  obtain ⟨⟨g₄, r₄⟩, h₄, h⟩ := Option.bind_eq_some_iff.mp h
  obtain ⟨⟨g₅, r₅⟩, h₅, h⟩ := Option.bind_eq_some_iff.mp h
  obtain ⟨⟨g₆, r₆⟩, h₆, h⟩ := Option.bind_eq_some_iff.mp h
  obtain ⟨⟨g₇, r₇⟩, h₇, h⟩ := Option.bind_eq_some_iff.mp h
  obtain ⟨⟨g₈, r₈⟩, h₈, h⟩ := Option.bind_eq_some_iff.mp h
  obtain ⟨-, rfl⟩ := Prod.mk.inj (Option.some.inj h)
  have hmem₁ := mem_of_group? h₁ hhex hmem
  have hmem₂ := mem_of_group? h₂ hhex (mem_skipHyphen hne hmem₁)
  have hmem₃ := mem_of_group? h₃ hhex (mem_skipHyphen hne hmem₂)
  have hmem₄ := mem_of_group? h₄ hhex (mem_skipHyphen hne hmem₃)
  have hmem₅ := mem_of_group? h₅ hhex (mem_skipHyphen hne hmem₄)
  have hmem₆ := mem_of_group? h₆ hhex (mem_skipHyphen hne hmem₅)
  have hmem₇ := mem_of_group? h₇ hhex (mem_skipHyphen hne hmem₆)
  exact mem_of_group? h₈ hhex (mem_skipHyphen hne hmem₇)

/-- A character that is none of a uuid is found after its digits. -/
theorem mem_of_endingWith {cs tail : List Char} {u : Uuid} {x : Char}
    (h : endingWith tail (uuidDigits? cs) = some u) (hhex : hexValue x = none) (hne : x ≠ '-')
    (hmem : x ∈ cs) : x ∈ tail := by
  cases hdigits : uuidDigits? cs with
  | none =>
      rw [hdigits] at h
      contradiction
  | some p =>
      obtain ⟨v, r⟩ := p
      rw [hdigits, endingWith] at h
      split at h
      · next heq => exact heq ▸ mem_of_uuidDigits? hdigits hhex hne hmem
      · contradiction

/-- **The spellings of an identifier** are made of hexadecimal digits, hyphens and braces. -/
theorem not_mem_of_uuid {s t : String} {x : Char} (h : uuid s = some t)
    (hhex : hexValue x = none) (hne : x ∉ ['-', '\x7b', '\x7d']) : x ∉ s.toList := by
  simp only [List.mem_cons, List.not_mem_nil, or_false, not_or] at hne
  obtain ⟨u, hu, -⟩ := Option.map_eq_some_iff.mp h
  intro hmem
  unfold uuid? at hu
  split at hu
  · next cs hs =>
      rw [hs] at hmem
      have hrest := (List.mem_cons.mp hmem).resolve_left hne.2.1
      have htail := mem_of_endingWith hu hhex hne.1 hrest
      exact hne.2.2 (List.mem_singleton.mp htail)
  · next cs hs =>
      have htail := mem_of_endingWith hu hhex hne.1 hmem
      exact List.not_mem_nil htail

/-- What a `uuid` column accepts, a `text` column stores as it is. -/
theorem text_of_uuid {s t : String} (h : uuid s = some t) : text s = some s := by
  have hnul : '\x00' ∉ s.toList := not_mem_of_uuid h (by decide) (by decide)
  rw [text, if_neg (by simpa using hnul)]

/-- The identifier whose last digit is `d`. -/
def uuidOf (d : Fin 16) : String := String.ofList (Uuid.chars
  ⟨⟨0, 0, 0, 0⟩, ⟨0, 0, 0, 0⟩, ⟨0, 0, 0, 0⟩, ⟨4, 0, 0, 0⟩, ⟨8, 0, 0, 0⟩, ⟨0, 0, 0, 0⟩,
    ⟨0, 0, 0, 0⟩, ⟨0, 0, 0, d⟩⟩)

theorem uuid_uuidOf (d : Fin 16) : uuid (uuidOf d) = some (uuidOf d) := by
  rw [uuid, uuidOf, uuid?_chars, Option.map_some]

example : uuid "\x7bA0EEBC99-9C0B4EF8-BB6D-6BB9BD380A11\x7d"
    = some "a0eebc99-9c0b-4ef8-bb6d-6bb9bd380a11" := by decide

end Atlas.Pg

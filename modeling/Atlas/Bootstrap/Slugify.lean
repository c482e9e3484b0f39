import Atlas.TenantCore.Organization
import Mathlib.Data.List.Chain
import Mathlib.Data.List.DropRight

/-!
# Atlas.Bootstrap.Slugify

`slugify` of the bootstrap script, which makes a slug of the name of the first
tenant, or takes the one it is given.

What `normalize('NFKD')` makes of a string is in the tables of Unicode and is a
parameter here, `nfkd`.  Whatever it is, the passes after it leave words of
lower-case letters and digits with single hyphens between them; a name that has
no such word becomes `-org`.
-/

namespace Atlas

/-- What `TenantSlug.create` accepts and does not change. -/
def TenantSlug.Accepts (s : String) : Prop := ∃ slug, create s = .ok slug ∧ slug.value = s

theorem TenantSlug.accepts_iff (s : String) : Accepts s ↔ slugPattern s = true := by
  constructor
  · rintro ⟨slug, -, rfl⟩
    exact slug.pattern
  · intro h
    exact ⟨⟨s, h⟩, create_value ⟨s, h⟩, rfl⟩

namespace Bootstrap

/-! ## The passes -/

/-- `/[\\u0300-\\u036f]/`. -/
def isDiacritic (c : Char) : Bool := 0x300 ≤ c.toNat && c.toNat ≤ 0x36f

/-- `cs.replace(/[^a-z0-9]+/g, '-')`, where `inRun` says whether the run has
begun already. -/
def hyphenate (inRun : Bool) : List Char → List Char
  | [] => []
  | c :: cs =>
    if isSlugEnd c then c :: hyphenate false cs
    else if inRun then hyphenate true cs
    else '-' :: hyphenate true cs

/-- The hyphens at the end are cut off. -/
def trimRight (cs : List Char) : List Char := cs.rdropWhile (· = '-')

/-- The hyphens at both ends are cut off. -/
def trimHyphens (cs : List Char) : List Char := trimRight (cs.dropWhile (· = '-'))

/-- The words of a name, with a hyphen between them. -/
def words (nfkd : String → String) (input : String) : List Char :=
  trimHyphens (hyphenate false
    ((nfkd (Js.toLowerCase input)).toList.filter fun c => !isDiacritic c))

/-- The two steps that see to the length. -/
def fit (s : List Char) : List Char :=
  let s := if s.length < 3 then s ++ "-org".toList else s
  if 63 < s.length then trimRight (s.take 63) else s

/-- The slug made of a name. -/
def derive (nfkd : String → String) (input : String) : String :=
  String.ofList (fit (words nfkd input))

/-- `INITIAL_TENANT_SLUG?.trim().toLowerCase()`. -/
def explicitSlug (initialTenantSlug : Option String) : Option String :=
  initialTenantSlug.map fun s => Js.toLowerCase (Js.trim s)

def slugify (nfkd : String → String) (initialTenantSlug : Option String) (input : String) :
    String :=
  match explicitSlug initialTenantSlug with
  | some explicit => if 3 ≤ Js.length explicit then explicit else derive nfkd input
  | none => derive nfkd input

/-! ## Words with single hyphens between them -/

/-- Lower-case letters, digits and hyphens, no two hyphens in a row. -/
structure Hyphenated (cs : List Char) : Prop where
  chars : ∀ c ∈ cs, isSlugEnd c = true ∨ c = '-'
  apart : cs.IsChain fun a b => a ≠ '-' ∨ b ≠ '-'

/-- No end of a slug is a hyphen. -/
theorem ne_hyphen {c : Char} (h : isSlugEnd c = true) : c ≠ '-' := by
  rintro rfl
  cases h

/-- A part of a hyphenated text is hyphenated. -/
theorem Hyphenated.of_part {cs ds : List Char} (h : Hyphenated cs) (hds : ds <:+: cs) :
    Hyphenated ds :=
  ⟨fun c hc => h.chars c (hds.subset hc), List.IsChain.infix h.apart hds⟩

/-- A run has one hyphen, which is its first character. -/
theorem hyphenate_hyphenated (inRun : Bool) (cs : List Char) :
    Hyphenated (hyphenate inRun cs) ∧
      (inRun = true → ∀ c ∈ (hyphenate inRun cs).head?, c ≠ '-') := by
  induction cs generalizing inRun with
  | nil => exact ⟨⟨by simp [hyphenate], List.isChain_nil⟩, by simp [hyphenate]⟩
  | cons c cs ih =>
      rw [hyphenate]
      by_cases hc : isSlugEnd c = true
      · obtain ⟨hrest, -⟩ := ih false
        rw [if_pos hc]
        refine ⟨⟨?_, ?_⟩, ?_⟩
        · exact List.forall_mem_cons.mpr ⟨.inl hc, hrest.chars⟩
        · exact hrest.apart.cons fun _ _ => .inl (ne_hyphen hc)
        · intro _ d hd
          obtain rfl := Option.some.inj hd
          exact ne_hyphen hc
      · obtain ⟨hrest, hhead⟩ := ih true
        rw [if_neg hc]
        cases inRun with
        | true => exact ⟨hrest, fun _ => hhead rfl⟩
        | false =>
            refine ⟨⟨?_, ?_⟩, fun h => by cases h⟩
            · exact List.forall_mem_cons.mpr ⟨.inr rfl, hrest.chars⟩
            · exact hrest.apart.cons fun d hd => .inr (hhead rfl d hd)

/-- The letters and digits are those there were. -/
theorem mem_hyphenate {c : Char} (hc : isSlugEnd c = true) (inRun : Bool) (cs : List Char) :
    c ∈ hyphenate inRun cs ↔ c ∈ cs := by
  induction cs generalizing inRun with
  | nil => rfl
  | cons d cs ih =>
      rw [hyphenate]
      by_cases hd : isSlugEnd d = true
      · rw [if_pos hd, List.mem_cons, List.mem_cons, ih]
      · have hne : c ≠ d := fun h => hd (h ▸ hc)
        rw [if_neg hd, List.mem_cons, or_iff_right hne]
        cases inRun with
        | true => exact ih true
        | false => rw [if_neg Bool.false_ne_true, List.mem_cons, or_iff_right (ne_hyphen hc), ih]

/-- Hyphens are cut off at the end only. -/
theorem trimRight_isPrefix (cs : List Char) : trimRight cs <+: cs := List.rdropWhile_prefix _ _

/-- The last character that is left is not a hyphen. -/
theorem last_trimRight {cs : List Char} {c : Char} (h : (trimRight cs).getLast? = some c) :
    c ≠ '-' := by
  obtain ⟨hne, rfl⟩ := List.mem_getLast?_eq_getLast h
  have hlast := List.rdropWhile_last_not (fun c => decide (c = '-')) cs hne
  rwa [decide_eq_true_eq] at hlast

/-- A hyphen at the end is cut off, and any other character stays. -/
theorem trimRight_concat (cs : List Char) (c : Char) :
    trimRight (cs ++ [c]) = if c = '-' then trimRight cs else cs ++ [c] := by
  rw [trimRight, List.rdropWhile_concat]
  simp only [decide_eq_true_eq, trimRight]

/-- Words joined by single hyphens lose one hyphen at most at their end. -/
theorem Hyphenated.length_trimRight {cs : List Char} (h : Hyphenated cs) :
    cs.length ≤ (trimRight cs).length + 1 := by
  rcases List.eq_nil_or_concat' cs with rfl | ⟨front, last, rfl⟩
  · exact Nat.zero_le _
  · rw [trimRight_concat]
    by_cases hlast : last = '-'
    · rw [if_pos hlast, List.length_append, List.length_singleton]
      rcases List.eq_nil_or_concat' front with rfl | ⟨start, c, rfl⟩
      · exact Nat.le_add_left _ _
      · have hpair : [c, last] <:+: start ++ [c] ++ [last] := ⟨start, [], by simp⟩
        have hc : c ≠ '-' :=
          (List.isChain_pair.mp (h.of_part hpair).apart).resolve_right (not_not.mpr hlast)
        rw [trimRight_concat, if_neg hc]
    · rw [if_neg hlast]
      exact Nat.le_succ _

/-! ## Slugs -/

/-- The pattern takes 3 to 63 letters, digits and hyphens with no hyphen at either end. -/
theorem slugPattern_ofList {cs : List Char} (hlength : 3 ≤ cs.length ∧ cs.length ≤ 63)
    (hchars : ∀ c ∈ cs, isSlugEnd c = true ∨ c = '-') (hfirst : ∀ c ∈ cs.head?, c ≠ '-')
    (hlast : ∀ c ∈ cs.getLast?, c ≠ '-') : slugPattern (String.ofList cs) = true := by
  cases cs with
  | nil => cases (by decide : ¬ 3 ≤ 0) hlength.1
  | cons first rest =>
      obtain ⟨last, hend⟩ : ∃ last, (first :: rest).getLast? = some last :=
        ⟨_, List.getLast?_eq_some_getLast (List.cons_ne_nil first rest)⟩
      have hfirst' := (hchars first List.mem_cons_self).resolve_right (hfirst first rfl)
      have hlast' := (hchars last (List.mem_of_getLast? hend)).resolve_right (hlast last hend)
      have hrest : (rest.all fun c => isSlugEnd c || c == '-') = true := by
        rw [List.all_eq_true]
        intro c hc
        simpa using hchars c (List.mem_cons_of_mem first hc)
      simp only [slugPattern, String.toList_ofList, hend, String.length_ofList, hlength.1, hlength.2,
        hfirst', hlast', hrest, decide_true, Bool.and_self]

/-- A text begins as its beginning does. -/
theorem head_of_start {ds cs : List Char} (h : ds <+: cs) {c : Char} (hc : c ∈ ds.head?) :
    c ∈ cs.head? := by
  obtain ⟨rest, rfl⟩ := h
  cases ds with
  | nil => cases hc
  | cons d ds => exact hc

/-- After the hyphens in front comes no hyphen. -/
theorem head_dropWhile {cs : List Char} {c : Char}
    (h : c ∈ (cs.dropWhile (· = '-')).head?) : c ≠ '-' := by
  have hnot := List.head?_dropWhile_not (fun c => decide (c = '-')) cs
  rw [Option.mem_def.mp h] at hnot
  simpa using hnot

/-- The words of a name neither begin nor end with a hyphen. -/
theorem words_spec (nfkd : String → String) (input : String) :
    Hyphenated (words nfkd input) ∧ (∀ c ∈ (words nfkd input).head?, c ≠ '-') ∧
      (∀ c ∈ (words nfkd input).getLast?, c ≠ '-') := by
  obtain ⟨cs, hcs⟩ : ∃ cs, words nfkd input = trimHyphens (hyphenate false cs) := ⟨_, rfl⟩
  rw [hcs]
  have hall := (hyphenate_hyphenated false cs).1
  have hsuffix : (hyphenate false cs).dropWhile (· = '-') <:+ hyphenate false cs :=
    List.dropWhile_suffix _
  have hprefix := trimRight_isPrefix ((hyphenate false cs).dropWhile (· = '-'))
  refine ⟨(hall.of_part hsuffix.isInfix).of_part hprefix.isInfix, ?_, fun c hc => last_trimRight hc⟩
  exact fun c hc => head_dropWhile (head_of_start hprefix hc)

/-- No character of a slug is a diacritic. -/
theorem plain_of_isSlugEnd {c : Char} (h : isSlugEnd c = true) : isDiacritic c = false := by
  have hlt : c.toNat < 0x300 := by
    simp only [isSlugEnd, Bool.or_eq_true, Bool.and_eq_true, decide_eq_true_eq] at h
    rcases h with ⟨-, hz⟩ | ⟨-, h9⟩
    · exact Nat.lt_of_le_of_lt hz (by decide)
    · exact Nat.lt_of_le_of_lt h9 (by decide)
  simp only [isDiacritic, Bool.and_eq_false_iff, decide_eq_false_iff_not]
  omega

/-- A name has words where it has a letter or a digit. -/
theorem words_eq_nil_iff (nfkd : String → String) (input : String) :
    words nfkd input = [] ↔ ∀ c ∈ (nfkd (Js.toLowerCase input)).toList, isSlugEnd c = false := by
  obtain ⟨cs, hcs⟩ : ∃ cs, (nfkd (Js.toLowerCase input)).toList = cs := ⟨_, rfl⟩
  have hkept : ∀ c, isSlugEnd c = true →
      (c ∈ hyphenate false (cs.filter fun c => !isDiacritic c) ↔ c ∈ cs) := by
    intro c hc
    rw [mem_hyphenate hc, List.mem_filter, and_iff_left]
    simpa using plain_of_isSlugEnd hc
  obtain ⟨hs, hhs⟩ : ∃ hs, hyphenate false (cs.filter fun c => !isDiacritic c) = hs := ⟨_, rfl⟩
  have hchars := (hyphenate_hyphenated false (cs.filter fun c => !isDiacritic c)).1.chars
  rw [hhs] at hkept hchars
  rw [words, hcs, hhs, trimHyphens, trimRight, List.rdropWhile_eq_nil_iff]
  constructor
  · intro hall c hc
    by_contra hend
    have hend' : isSlugEnd c = true := by simpa using hend
    have hmem := (hkept c hend').mpr hc
    rw [← List.takeWhile_append_dropWhile (p := fun c => decide (c = '-')) (l := hs),
      List.mem_append] at hmem
    rcases hmem with hmem | hmem
    · exact ne_hyphen hend' (by simpa using List.mem_takeWhile_imp hmem)
    · exact ne_hyphen hend' (by simpa using hall c hmem)
  · intro hnone c hc
    have hmem := (List.dropWhile_suffix _).subset hc
    rcases hchars c hmem with hend | hhyphen
    · rw [hnone c ((hkept c hend).mp hmem)] at hend
      cases hend
    · exact decide_eq_true hhyphen

theorem suffix_chars : ∀ c ∈ "-org".toList, isSlugEnd c = true ∨ c = '-' := by
  have hall : "-org".toList.all (fun c => decide (isSlugEnd c = true ∨ c = '-')) = true := by decide
  simpa only [List.all_eq_true, decide_eq_true_eq] using hall

/-- Fitting a slug to its length adds the suffix and nothing else. -/
theorem fit_chars {cs : List Char} (h : ∀ c ∈ cs, isSlugEnd c = true ∨ c = '-') :
    ∀ c ∈ fit cs, isSlugEnd c = true ∨ c = '-' := by
  obtain ⟨s, hs⟩ : ∃ s, (if cs.length < 3 then cs ++ "-org".toList else cs) = s := ⟨_, rfl⟩
  have hchars : ∀ c ∈ s, isSlugEnd c = true ∨ c = '-' := by
    intro c hc
    rw [← hs] at hc
    split at hc
    · rcases List.mem_append.mp hc with hc | hc
      · exact h c hc
      · exact suffix_chars c hc
    · exact h c hc
  have hfit : fit cs = if 63 < s.length then trimRight (s.take 63) else s := by
    rw [← hs]
    rfl
  intro c hc
  rw [hfit] at hc
  split at hc
  · exact hchars c (List.mem_of_mem_take ((trimRight_isPrefix _).subset hc))
  · exact hchars c hc

/-- Words of any length are made to fit. -/
theorem slugPattern_fit {cs : List Char} (hne : cs ≠ []) (hcs : Hyphenated cs)
    (hfirst : ∀ c ∈ cs.head?, c ≠ '-') (hlast : ∀ c ∈ cs.getLast?, c ≠ '-') :
    slugPattern (String.ofList (fit cs)) = true := by
  have hpos := List.length_pos_iff.mpr hne
  have hchars := fit_chars hcs.chars
  by_cases hshort : cs.length < 3
  · -- too short: the suffix ends in a letter
    have hlength : (cs ++ "-org".toList).length = cs.length + 4 := by
      rw [List.length_append]
      rfl
    have hfit : fit cs = cs ++ "-org".toList := by
      simp only [fit, if_pos hshort]
      exact if_neg (by omega)
    rw [hfit] at hchars ⊢
    refine slugPattern_ofList (by omega) hchars ?_ ?_
    · intro c hc
      rw [List.head?_append_of_ne_nil _ hne] at hc
      exact hfirst c hc
    · intro c hc
      have hend : (cs ++ "-org".toList).getLast? = some 'g' := by
        rw [List.getLast?_append]
        rfl
      obtain rfl := Option.some.inj (hend.symm.trans hc)
      decide
  · by_cases hlong : 63 < cs.length
    · -- too long: the cut leaves at least 62 characters
      have hfit : fit cs = trimRight (cs.take 63) := by
        simp only [fit, if_neg hshort, if_pos hlong]
      have htake : cs.take 63 <+: cs := List.take_prefix 63 cs
      have hprefix := trimRight_isPrefix (cs.take 63)
      have hmin := (hcs.of_part htake.isInfix).length_trimRight
      have hmax := hprefix.length_le
      rw [List.length_take] at hmin hmax
      rw [hfit] at hchars ⊢
      exact slugPattern_ofList (by omega) hchars
        (fun c hc => hfirst c (head_of_start htake (head_of_start hprefix hc)))
        (fun c hc => last_trimRight hc)
    · have hfit : fit cs = cs := by
        simp only [fit, if_neg hshort, if_neg hlong]
      rw [hfit]
      exact slugPattern_ofList (by omega) hcs.chars hfirst hlast

/-- **A slug is derived from a name exactly where it has a word.** -/
theorem derive_iff (nfkd : String → String) (input : String) :
    slugPattern (derive nfkd input) = true ↔
      ∃ c ∈ (nfkd (Js.toLowerCase input)).toList, isSlugEnd c = true := by
  obtain ⟨hwords, hfirst, hlast⟩ := words_spec nfkd input
  by_cases hnil : words nfkd input = []
  · have hnone := (words_eq_nil_iff nfkd input).mp hnil
    have hderive : derive nfkd input = "-org" := by
      simp only [derive, hnil]
      rfl
    rw [hderive]
    refine iff_of_false (by decide) ?_
    rintro ⟨c, hc, hend⟩
    rw [hnone c hc] at hend
    cases hend
  · have hword : ∃ c ∈ (nfkd (Js.toLowerCase input)).toList, isSlugEnd c = true := by
      by_contra hnone
      refine hnil ((words_eq_nil_iff nfkd input).mpr fun c hc => ?_)
      by_contra hend
      exact hnone ⟨c, hc, by simpa using hend⟩
    refine iff_of_true ?_ hword
    exact slugPattern_fit hnil hwords hfirst hlast

/-- **What `slugify` answers is lower-case and trimmed**, whether it is a slug or
not. -/
theorem slugify_normal (nfkd : String → String) (initialTenantSlug : Option String)
    (input : String) : Js.trim (Js.toLowerCase (slugify nfkd initialTenantSlug input)) =
      slugify nfkd initialTenantSlug input := by
  have hderive : Js.trim (Js.toLowerCase (derive nfkd input)) = derive nfkd input := by
    have hchars : ∀ c ∈ (derive nfkd input).toList, (isSlugEnd c || c == '-') = true := by
      intro c hc
      rw [derive, String.toList_ofList] at hc
      simpa using fit_chars (words_spec nfkd input).1.chars c hc
    rw [Js.toLowerCase_eq fun c hc => (slug_char (hchars c hc)).1,
      Js.trim_eq fun c hc => (slug_char (hchars c hc)).2]
  rw [slugify]
  cases initialTenantSlug with
  | none => exact hderive
  | some s =>
      simp only [explicitSlug, Option.map_some]
      split
      · rw [Js.toLowerCase_toLowerCase, Js.trim_toLowerCase_trim]
      · exact hderive

/-- The name has a letter or a digit once it is lower-case and decomposed. -/
def HasWord (nfkd : String → String) (input : String) : Prop :=
  ∃ c ∈ (nfkd (Js.toLowerCase input)).toList, isSlugEnd c = true

/-- The slug that is given is one, where it is long enough to be taken; else the
name has a word. -/
def Sluggable (nfkd : String → String) (initialTenantSlug : Option String) (input : String) :
    Prop :=
  match explicitSlug initialTenantSlug with
  | some explicit => if 3 ≤ Js.length explicit then slugPattern explicit = true
    else HasWord nfkd input
  | none => HasWord nfkd input

/-- **`slugify` gives a text that `TenantSlug` accepts exactly for what is
`Sluggable`.** -/
theorem slugify_accepts_iff (nfkd : String → String) (initialTenantSlug : Option String)
    (input : String) : TenantSlug.Accepts (slugify nfkd initialTenantSlug input) ↔
      Sluggable nfkd initialTenantSlug input := by
  rw [TenantSlug.accepts_iff, slugify, Sluggable]
  cases explicitSlug initialTenantSlug with
  | none => exact derive_iff nfkd input
  | some explicit =>
      by_cases hlong : 3 ≤ Js.length explicit
      · simp only [if_pos hlong]
      · simp only [if_neg hlong]
        exact derive_iff nfkd input

/-- A name without a Latin letter, which is its own decomposition, and a slug
that is given with a blank in it. -/
theorem slugify_refused : ¬ TenantSlug.Accepts (slugify id none "株式会社") ∧
    ¬ TenantSlug.Accepts (slugify id (some "my shop") "My Shop") := by
  have hderived : slugify id none "株式会社" = "-org" := by decide +kernel
  have hgiven : slugify id (some "my shop") "My Shop" = "my shop" := by decide +kernel
  rw [TenantSlug.accepts_iff, TenantSlug.accepts_iff, hderived, hgiven]
  decide

end Bootstrap

end Atlas

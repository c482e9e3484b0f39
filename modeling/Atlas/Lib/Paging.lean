import Atlas.Lib.Program
import Mathlib.Data.List.Sort
import Mathlib.Data.List.Nodup
import Mathlib.Data.List.Perm.Basic

/-!
# Atlas.Lib.Paging

A list read a page at a time, in descending order of a key.

Each page is cut from a listing of its own: the rows sorted by the key, those
of equal keys in whatever order they come that time.  The keys read are the
same for all of them (`map_pages`); the rows are each read once if no two of
equal keys stand on both sides of a boundary between pages (`pages_perm`), and
otherwise there are listings that show a row twice (`tieFree_of_nodup`).

`Walks` asks for page after page until one says that none follows.
-/

namespace StoreKit

/-! ## Pages -/

section Pages

variable {α β : Type*}

/-- Page `p` of a list, counted from 0, with `n` items to a page. -/
def page (n p : Nat) (l : List α) : List α := (l.drop (p * n)).take n

theorem map_page (f : α → β) (n p : Nat) (l : List α) :
    (page n p l).map f = page n p (l.map f) := by
  rw [page, page, List.map_take, List.map_drop]

/-- A page begins where the one before ends. -/
theorem take_succ_mul (n p : Nat) (l : List α) :
    l.take ((p + 1) * n) = l.take (p * n) ++ page n p l := by
  rw [Nat.succ_mul, List.take_add, page]

/-- The first pages of one list are the list up to there. -/
theorem flatMap_page (n k : Nat) (l : List α) :
    (List.range k).flatMap (fun p => page n p l) = l.take (k * n) := by
  induction k with
  | zero => simp
  | succ k ih =>
      rw [List.range_succ, List.flatMap_append, ih, List.flatMap_singleton, take_succ_mul]

/-- An item is on the page its position lies on. -/
theorem mem_page {n p i : Nat} {l : List α} {a : α} (h : l[i]? = some a) (hle : p * n ≤ i)
    (hlt : i < (p + 1) * n) : a ∈ page n p l := by
  have hi : (page n p l)[i - p * n]? = some a := by
    have hsum : p * n + (i - p * n) = i := by omega
    have hn : i - p * n < n := by
      rw [Nat.succ_mul] at hlt
      omega
    rw [page, List.getElem?_take_of_lt hn, List.getElem?_drop, hsum, h]
  exact List.mem_of_getElem? hi

/-- The first `k` pages, page `p` being cut from `lists p`. -/
def pages (lists : Nat → List α) (n k : Nat) : List α :=
  (List.range k).flatMap fun p => page n p (lists p)

/-- Number of pages that `t` items take. -/
def pageCount (t n : Nat) : Nat := (t + n - 1) / n

theorem lt_pageCount {n : Nat} (hn : 0 < n) (p t : Nat) : p < pageCount t n ↔ p * n < t := by
  rw [pageCount, Nat.lt_iff_add_one_le, Nat.le_div_iff_mul_le hn, Nat.succ_mul]
  omega

theorem pageCount_mul_lt {n : Nat} (hn : 0 < n) (t : Nat) : pageCount t n * n < t + n := by
  have hle := Nat.div_mul_le_self (t + n - 1) n
  rw [pageCount]
  omega

theorem le_pageCount_mul {n : Nat} (hn : 0 < n) (t : Nat) : t ≤ pageCount t n * n := by
  have hnot := (lt_pageCount hn (pageCount t n) t).not.mp (Nat.lt_irrefl _)
  omega

end Pages

/-! ## Listings -/

section Listing

variable {α κ : Type*} [LinearOrder κ] {key : α → κ} {rows o o' : List α}

/-- An answer to a query for the rows in descending order of the key. -/
structure Listing (key : α → κ) (rows o : List α) : Prop where
  perm : o.Perm rows
  sorted : o.Pairwise fun a b => key b ≤ key a

/-- The keys of the rows, in descending order. -/
def sortedKeys (key : α → κ) (rows : List α) : List κ := (rows.map key).insertionSort (· ≥ ·)

theorem length_sortedKeys (key : α → κ) (rows : List α) :
    (sortedKeys key rows).length = rows.length := by
  rw [sortedKeys, List.length_insertionSort, List.length_map]

/-- The keys come in one order, whatever the order of the rows. -/
theorem Listing.keys_eq (h : Listing key rows o) : o.map key = sortedKeys key rows := by
  have hsorted : (o.map key).Pairwise (· ≥ ·) := List.pairwise_map.mpr h.sorted
  have hperm : (o.map key).Perm (sortedKeys key rows) :=
    (h.perm.map key).trans (List.perm_insertionSort _ _).symm
  exact hperm.eq_of_pairwise' hsorted (List.pairwise_insertionSort _ _)

/-- What the pages show of the keys does not depend on the listings. -/
theorem map_pages {lists : Nat → List α} (h : ∀ p, Listing key rows (lists p)) (n k : Nat) :
    (pages lists n k).map key = (sortedKeys key rows).take (k * n) := by
  have hpage : (fun p => (page n p (lists p)).map key) = fun p => page n p (sortedKeys key rows) :=
    funext fun p => by rw [map_page, (h p).keys_eq]
  rw [pages, List.map_flatMap, hpage, flatMap_page]

theorem pages_sorted {lists : Nat → List α} (h : ∀ p, Listing key rows (lists p)) (n k : Nat) :
    (pages lists n k).Pairwise fun a b => key b ≤ key a := by
  have hkeys : ((pages lists n k).map key).Pairwise (· ≥ ·) := by
    rw [map_pages h]
    exact (List.pairwise_insertionSort _ _).sublist (List.take_sublist _ _)
  exact List.pairwise_map.mp hkeys

/-- No two items of equal keys stand next to each other on both sides of a
boundary between pages of `n` items. -/
def TieFree (n : Nat) (keys : List κ) : Prop :=
  ∀ p, 0 < p → p * n < keys.length → keys[p * n - 1]? ≠ keys[p * n]?

/-- The items up to a place are the ones with a property that the items up to
there have and the items after it have not. -/
theorem take_eq_filter {P : α → Bool} {l : List α} {m : Nat} (htake : ∀ a ∈ l.take m, P a = true)
    (hdrop : ∀ a ∈ l.drop m, P a = false) : l.take m = l.filter P := by
  have hrest : (l.drop m).filter P = [] := by
    apply List.filter_eq_nil_iff.mpr
    intro a ha
    rw [hdrop a ha]
    exact Bool.false_ne_true
  calc
    l.take m = (l.take m).filter P ++ (l.drop m).filter P := by
      rw [List.filter_eq_self.mpr htake, hrest, List.append_nil]
    _ = l.filter P := by rw [← List.filter_append, List.take_append_drop]

/-- Where the key changes, it is larger before and no larger after. -/
theorem key_lt_of_mem_take (h : Listing key rows o) {m : Nat} (hpos : 0 < m) {c : κ}
    (hc : (sortedKeys key rows)[m]? = some c)
    (hne : (sortedKeys key rows)[m - 1]? ≠ (sortedKeys key rows)[m]?) :
    (∀ a ∈ o.take m, c < key a) ∧ ∀ a ∈ o.drop m, key a ≤ c := by
  have hsorted : (sortedKeys key rows).Pairwise (· ≥ ·) := List.pairwise_insertionSort _ _
  have hdesc : ∀ {i j : Nat} {a b : κ}, (sortedKeys key rows)[i]? = some a →
      (sortedKeys key rows)[j]? = some b → i ≤ j → b ≤ a := by
    intro i j a b ha hb hij
    obtain ⟨hi, rfl⟩ := List.getElem?_eq_some_iff.mp ha
    obtain ⟨hj, rfl⟩ := List.getElem?_eq_some_iff.mp hb
    rcases Nat.eq_or_lt_of_le hij with rfl | hlt
    · exact le_refl _
    · exact List.pairwise_iff_getElem.mp hsorted i j hi hj hlt
  have hkey : ∀ {i : Nat} {a : α}, o[i]? = some a → (sortedKeys key rows)[i]? = some (key a) := by
    intro i a ha
    rw [← h.keys_eq, List.getElem?_map, ha, Option.map_some]
  constructor
  · intro a ha
    obtain ⟨i, hi, rfl⟩ := List.mem_take_iff_getElem.mp ha
    have hlast : m - 1 < (sortedKeys key rows).length := by
      have hm := (List.getElem?_eq_some_iff.mp hc).1
      omega
    have hprev := List.getElem?_eq_getElem hlast
    have hle := hdesc (hkey (List.getElem?_eq_getElem (by omega))) hprev (by omega : i ≤ m - 1)
    have hchange : c < (sortedKeys key rows)[m - 1] := by
      refine lt_of_le_of_ne (hdesc hprev hc (by omega)) fun heq => hne ?_
      rw [hprev, hc, heq]
    exact lt_of_lt_of_le hchange hle
  · intro a ha
    obtain ⟨i, hi, rfl⟩ := List.mem_drop_iff_getElem.mp ha
    exact hdesc hc (hkey (List.getElem?_eq_getElem (by omega))) (by omega)

/-- Up to a place where the key changes, two listings have the same rows. -/
theorem take_perm (h : Listing key rows o) (h' : Listing key rows o') {m : Nat}
    (hm : 0 < m → m < rows.length →
      (sortedKeys key rows)[m - 1]? ≠ (sortedKeys key rows)[m]?) :
    (o.take m).Perm (o'.take m) := by
  have hperm : o.Perm o' := h.perm.trans h'.perm.symm
  rcases Nat.eq_zero_or_pos m with rfl | hpos
  · rw [List.take_zero, List.take_zero]
  rcases Nat.lt_or_ge m rows.length with hlt | hge
  · obtain ⟨c, hc⟩ : ∃ c, (sortedKeys key rows)[m]? = some c :=
      ⟨_, List.getElem?_eq_getElem (by rw [length_sortedKeys]; exact hlt)⟩
    have hsplit : ∀ l, Listing key rows l → l.take m = l.filter fun a => c < key a := by
      intro l hl
      obtain ⟨hbefore, hafter⟩ := key_lt_of_mem_take hl hpos hc (hm hpos hlt)
      exact take_eq_filter (fun a ha => decide_eq_true (hbefore a ha))
        fun a ha => decide_eq_false (not_lt.mpr (hafter a ha))
    rw [hsplit o h, hsplit o' h']
    exact hperm.filter _
  · rw [List.take_of_length_le (h.perm.length_eq ▸ hge),
      List.take_of_length_le (h'.perm.length_eq ▸ hge)]
    exact hperm

/-- A page has the same rows in both orders, up to their order on it, where no boundary
parts a tie. -/
theorem page_perm (h : Listing key rows o) (h' : Listing key rows o') {n : Nat}
    (hfree : TieFree n (sortedKeys key rows)) (p : Nat) :
    (page n p o).Perm (page n p o') := by
  have htake : ∀ q, (o.take (q * n)).Perm (o'.take (q * n)) := by
    intro q
    refine take_perm h h' fun hpos hlt => hfree q (Nat.pos_of_mul_pos_right hpos) ?_
    rw [length_sortedKeys]
    exact hlt
  have hsucc := htake (p + 1)
  rw [take_succ_mul, take_succ_mul] at hsucc
  have happend : (o.take (p * n) ++ page n p o).Perm (o.take (p * n) ++ page n p o') :=
    hsucc.trans ((htake p).symm.append_right _)
  exact (List.perm_append_left_iff _).mp happend

/-- **Every row is read once** where no boundary between pages parts rows of
equal keys. -/
theorem pages_perm {lists : Nat → List α} (h : ∀ p, Listing key rows (lists p)) {n k : Nat}
    (hfree : TieFree n (sortedKeys key rows)) (hk : rows.length ≤ k * n) :
    (pages lists n k).Perm rows := by
  have hpages : (pages lists n k).Perm ((List.range k).flatMap fun p => page n p (lists 0)) :=
    List.Perm.flatMap_left _ fun p _ => page_perm (h p) (h 0) hfree p
  rw [flatMap_page, List.take_of_length_le ((h 0).perm.length_eq ▸ hk)] at hpages
  exact hpages.trans (h 0).perm

theorem exists_listing (key : α → κ) (rows : List α) : ∃ o, Listing key rows o := by
  have htotal : Std.Total fun a b : α => key b ≤ key a := ⟨fun a b => le_total (key b) (key a)⟩
  have htrans : IsTrans α fun a b => key b ≤ key a := ⟨fun _ _ _ hab hbc => le_trans hbc hab⟩
  exact ⟨rows.insertionSort fun a b => key b ≤ key a, List.perm_insertionSort _ _,
    List.pairwise_insertionSort _ _⟩

/-- Two neighbours of equal keys may change places. -/
theorem Listing.swap {before after : List α} {x y : α}
    (h : Listing key rows (before ++ x :: y :: after)) (hxy : key x = key y) :
    Listing key rows (before ++ y :: x :: after) := by
  have hswap : (before ++ y :: x :: after).Perm (before ++ x :: y :: after) :=
    (List.Perm.swap x y after).append_left before
  have hkeys : (before ++ y :: x :: after).map key = (before ++ x :: y :: after).map key := by
    simp [hxy]
  refine ⟨hswap.trans h.perm, List.pairwise_map (R := (· ≥ ·)).mp ?_⟩
  rw [hkeys]
  exact List.pairwise_map.mpr h.sorted

/-- **And only there**: two neighbours of equal keys on both sides of a
boundary can change places between the two pages, and one is read twice. -/
theorem tieFree_of_nodup {n k : Nat} (hk : rows.length ≤ k * n)
    (h : ∀ lists : Nat → List α, (∀ p, Listing key rows (lists p)) → (pages lists n k).Nodup) :
    TieFree n (sortedKeys key rows) := by
  intro p hp hlt heq
  rw [length_sortedKeys] at hlt
  obtain ⟨o, ho⟩ := exists_listing key rows
  have hlength : o.length = rows.length := ho.perm.length_eq
  have hn : 0 < n := by
    rcases Nat.eq_zero_or_pos n with rfl | hn
    · rw [Nat.mul_zero] at hk hlt
      omega
    · exact hn
  have hm : 0 < p * n := Nat.mul_pos hp hn
  have hpk : p < k := Nat.lt_of_mul_lt_mul_right (Nat.lt_of_lt_of_le hlt hk)
  -- the rows `x` and `y` on both sides of the boundary
  obtain ⟨x, hx⟩ : ∃ x, o[p * n - 1]? = some x := ⟨_, List.getElem?_eq_getElem (by omega)⟩
  obtain ⟨y, hy⟩ : ∃ y, o[p * n]? = some y := ⟨_, List.getElem?_eq_getElem (by omega)⟩
  have hxy : key x = key y := by
    rw [← ho.keys_eq, List.getElem?_map, List.getElem?_map, hx, hy] at heq
    exact Option.some.inj heq
  have hsplit : o = o.take (p * n - 1) ++ x :: y :: o.drop (p * n + 1) := by
    obtain ⟨hi, rfl⟩ := List.getElem?_eq_some_iff.mp hx
    obtain ⟨hj, rfl⟩ := List.getElem?_eq_some_iff.mp hy
    have hnext : p * n - 1 + 1 = p * n := by omega
    have hdrop := List.drop_eq_getElem_cons hi
    rw [hnext, List.drop_eq_getElem_cons hj] at hdrop
    rw [← hdrop, List.take_append_drop]
  have hswap := Listing.swap (hsplit ▸ ho) hxy
  have hxpage : x ∈ page n (p - 1) o := by
    have hprev : p - 1 + 1 = p := by omega
    have hstart : (p - 1) * n + n = p * n := by rw [← Nat.succ_mul, Nat.succ_eq_add_one, hprev]
    refine mem_page hx (by omega) ?_
    rw [hprev]
    omega
  have hxswap : x ∈ page n p (o.take (p * n - 1) ++ y :: x :: o.drop (p * n + 1)) := by
    refine mem_page (i := p * n) ?_ (Nat.le_refl _) (by rw [Nat.succ_mul]; omega)
    have htake : (o.take (p * n - 1)).length = p * n - 1 := by
      rw [List.length_take]
      omega
    have hone : p * n - (p * n - 1) = 1 := by omega
    rw [List.getElem?_append_right (by omega), htake, hone]
    rfl
  let lists : Nat → List α := fun q =>
    if q < p then o else o.take (p * n - 1) ++ y :: x :: o.drop (p * n + 1)
  have hlists : ∀ q, Listing key rows (lists q) := by
    intro q
    by_cases hq : q < p
    · simp only [lists, if_pos hq]
      exact ho
    · simp only [lists, if_neg hq]
      exact hswap
  have hdisjoint := List.pairwise_iff_getElem.mp (List.nodup_flatMap.mp (h lists hlists)).2
    (p - 1) p (by rw [List.length_range]; omega) (by rw [List.length_range]; omega) (by omega)
  rw [List.getElem_range, List.getElem_range] at hdisjoint
  refine hdisjoint (a := x) ?_ ?_
  · simp only [lists, if_pos (show p - 1 < p by omega)]
    exact hxpage
  · simp only [lists, if_neg (Nat.lt_irrefl p)]
    exact hxswap

end Listing

/-! ## Walking the pages -/

section Walks

variable {σ ε β : Type}

/-- Asking for page after page, from page `p` on, until one says that none
follows. -/
inductive Walks (query : Nat → Program σ ε β) (more : β → Bool) :
    Nat → σ → List β → σ → Prop where
  | last {p : Nat} {s s' : σ} {b : β} (hrun : (query p).run s = (.ok b, s'))
      (hmore : more b = false) : Walks query more p s [b] s'
  | next {p : Nat} {s s' s'' : σ} {b : β} {bs : List β} (hrun : (query p).run s = (.ok b, s'))
      (hmore : more b = true) (hrest : Walks query more (p + 1) s' bs s'') :
      Walks query more p s (b :: bs) s''

/-- In every state of `S` the query answers `answer p` for page `p + 1` or, where
the page does not fit, fails; and `k` pages are announced. -/
structure Answers (query : Nat → Program σ ε β) (more : β → Bool) (S : σ → Prop)
    (fits : Nat → Prop) (answer : Nat → β) (k : Nat) : Prop where
  ok : ∀ p s, S s → fits p → ∃ s', (query (p + 1)).run s = (.ok (answer p), s') ∧ S s'
  error : ∀ p s, S s → ¬ fits p → ∃ e s', (query (p + 1)).run s = (.error e, s')
  more : ∀ p, more (answer p) = decide (p + 1 < k)

variable {query : Nat → Program σ ε β} {more : β → Bool} {S : σ → Prop} {fits : Nat → Prop}
  {answer : Nat → β} {k : Nat}

/-- A page that is read fits, and is the one the query answers. -/
theorem Answers.of_run (h : Answers query more S fits answer k) {p : Nat} {s s' : σ} {b : β}
    (hs : S s) (hrun : (query (p + 1)).run s = (.ok b, s')) : fits p ∧ b = answer p ∧ S s' := by
  by_cases hfits : fits p
  · obtain ⟨t, hok, ht⟩ := h.ok p s hs hfits
    rw [hok] at hrun
    obtain ⟨hb, rfl⟩ := Prod.mk.inj hrun
    exact ⟨hfits, (Except.ok.inj hb).symm, ht⟩
  · obtain ⟨e, t, herror⟩ := h.error p s hs hfits
    rw [herror] at hrun
    cases hrun

/-- From a page on, the walk reads the pages announced that are left. -/
theorem Answers.walks_from_iff (h : Answers query more S fits answer k) {j : Nat} (hj : j < k) {s : σ}
    (hs : S s) (bs : List β) :
    (∃ s', Walks query more (j + 1) s bs s') ↔
      (∀ p, j ≤ p → p < k → fits p) ∧ bs = (List.range' j (k - j)).map answer := by
  obtain ⟨d, hd⟩ : ∃ d, k = j + d + 1 := ⟨k - j - 1, by omega⟩
  induction d generalizing j s bs with
  | zero =>
      have hmore : more (answer j) = false := by
        rw [h.more, decide_eq_false_iff_not]
        omega
      have hone : k - j = 1 := by omega
      rw [hone, List.range'_one, List.map_singleton]
      constructor
      · rintro ⟨s', hwalk⟩
        cases hwalk with
        | last hrun _ =>
            obtain ⟨hfits, rfl, -⟩ := h.of_run hs hrun
            refine ⟨fun p hle hlt => ?_, rfl⟩
            obtain rfl : p = j := by omega
            exact hfits
        | next hrun hnext _ =>
            obtain ⟨-, rfl, -⟩ := h.of_run hs hrun
            rw [hmore] at hnext
            contradiction
      · rintro ⟨hfits, rfl⟩
        obtain ⟨s', hrun, -⟩ := h.ok j s hs (hfits j (Nat.le_refl j) hj)
        exact ⟨s', .last hrun hmore⟩
  | succ d ih =>
      have hmore : more (answer j) = true := by
        rw [h.more, decide_eq_true_eq]
        omega
      have hpages : k - j = k - (j + 1) + 1 := by omega
      rw [hpages, List.range'_succ, List.map_cons]
      constructor
      · rintro ⟨s', hwalk⟩
        cases hwalk with
        | last hrun hlast =>
            obtain ⟨-, rfl, -⟩ := h.of_run hs hrun
            rw [hmore] at hlast
            contradiction
        | next hrun _ hrest =>
            obtain ⟨hfits, rfl, hs'⟩ := h.of_run hs hrun
            obtain ⟨hlater, rfl⟩ := (ih (by omega) hs' _ (by omega)).mp ⟨s', hrest⟩
            refine ⟨fun p hle hlt => ?_, rfl⟩
            rcases Nat.eq_or_lt_of_le hle with rfl | hlt'
            · exact hfits
            · exact hlater p hlt' (by omega)
      · rintro ⟨hfits, rfl⟩
        obtain ⟨s', hrun, hs'⟩ := h.ok j s hs (hfits j (Nat.le_refl j) hj)
        have hrest := (ih (j := j + 1) (by omega) hs' _ (by omega)).mpr
          ⟨fun p hle hlt => hfits p (by omega) (by omega), rfl⟩
        obtain ⟨s'', hwalk⟩ := hrest
        exact ⟨s'', .next hrun hmore hwalk⟩

/-- **The walk reads the pages announced**, in order, and no other; it ends if
they all fit. -/
theorem Answers.walks_iff (h : Answers query more S fits answer k) (hk : 0 < k) {s : σ}
    (hs : S s) (bs : List β) :
    (∃ s', Walks query more 1 s bs s') ↔
      (∀ p < k, fits p) ∧ bs = (List.range k).map answer := by
  have hfrom := h.walks_from_iff hk hs bs
  rw [Nat.sub_zero, ← List.range_eq_range'] at hfrom
  rw [hfrom]
  simp only [Nat.zero_le, true_imp_iff]

end Walks

end StoreKit

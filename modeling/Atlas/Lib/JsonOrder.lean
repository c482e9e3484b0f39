import Atlas.Lib.Json
import Mathlib.Order.Lattice

/-!
# Atlas.Lib.JsonOrder

Objects with one member for each key, in an order of the keys.

`ordered` puts every object of a value in this form: of several members of one
key the last one counts, and the members left stand by the rank of their keys.
Ordering twice is ordering once (`ordered_ordered`), and the order the members
had before does not matter (`orderedMembers_eq_iff`).
-/

namespace StoreKit.Json

variable {κ : Type} [LinearOrder κ] (rank : String → κ)

/-- Put a member in its place, unless there is one of its key. -/
def insertMember (m : String × Json) : List (String × Json) → List (String × Json)
  | [] => [m]
  | n :: ms =>
    if rank m.1 < rank n.1 then m :: n :: ms
    else if m.1 = n.1 then n :: ms
    else n :: insertMember m ms

mutual

/-- A value with the members of its objects in order. -/
def ordered : Json → Json
  | .arr xs => .arr (orderedElems xs)
  | .obj ms => .obj (orderedMembers ms)
  | v => v

def orderedElems : List Json → List Json
  | [] => []
  | x :: xs => ordered x :: orderedElems xs

def orderedMember : String × Json → String × Json
  | (k, v) => (k, ordered v)

def orderedMembers : List (String × Json) → List (String × Json)
  | [] => []
  | m :: ms => insertMember rank (orderedMember m) (orderedMembers ms)

end

/-! ## Sorted members -/

/-- Every key once, by rank. -/
def SortedMembers (ms : List (String × Json)) : Prop := ms.Pairwise fun m n => rank m.1 < rank n.1

variable {rank}

/-- Insertion adds no other member. -/
theorem mem_insertMember {m a : String × Json} {ms : List (String × Json)}
    (h : a ∈ insertMember rank m ms) : a = m ∨ a ∈ ms := by
  induction ms with
  | nil => exact .inl (List.mem_singleton.mp h)
  | cons n ms ih =>
      rw [insertMember] at h
      split_ifs at h
      · exact List.mem_cons.mp h
      · exact .inr h
      · rcases List.mem_cons.mp h with rfl | h
        · exact .inr List.mem_cons_self
        · exact (ih h).imp_right (List.mem_cons_of_mem n)

/-- A member is inserted in its place. -/
theorem sorted_insertMember (hrank : Function.Injective rank) (m : String × Json)
    {ms : List (String × Json)} (h : SortedMembers rank ms) :
    SortedMembers rank (insertMember rank m ms) := by
  induction ms with
  | nil => exact List.pairwise_singleton _ _
  | cons n ms ih =>
      obtain ⟨hfirst, hrest⟩ := List.pairwise_cons.mp h
      rw [insertMember]
      split_ifs with hlt heq
      · refine List.pairwise_cons.mpr ⟨fun a ha => ?_, h⟩
        rcases List.mem_cons.mp ha with rfl | ha
        · exact hlt
        · exact lt_trans hlt (hfirst a ha)
      · exact h
      · refine List.pairwise_cons.mpr ⟨fun a ha => ?_, ih hrest⟩
        rcases mem_insertMember ha with rfl | ha
        · exact lt_of_le_of_ne (not_lt.mp hlt) fun hsame => heq (hrank hsame.symm)
        · exact hfirst a ha

/-- The members come in the order of their keys. -/
theorem sorted_orderedMembers (hrank : Function.Injective rank) (ms : List (String × Json)) :
    SortedMembers rank (orderedMembers rank ms) := by
  induction ms with
  | nil => exact List.Pairwise.nil
  | cons m ms ih =>
      rw [orderedMembers]
      exact sorted_insertMember hrank _ ih

/-- A member that stands before all others is put there. -/
theorem insertMember_of_lt {m : String × Json} {ms : List (String × Json)}
    (h : ∀ n ∈ ms, rank m.1 < rank n.1) : insertMember rank m ms = m :: ms := by
  cases ms with
  | nil => rfl
  | cons n ms => rw [insertMember, if_pos (h n List.mem_cons_self)]

/-- What is in order already stays as it is. -/
theorem orderedMembers_of_sorted {ms : List (String × Json)} (hsorted : SortedMembers rank ms)
    (hvalues : ∀ m ∈ ms, ordered rank m.2 = m.2) : orderedMembers rank ms = ms := by
  induction ms with
  | nil => rfl
  | cons m ms ih =>
      obtain ⟨hfirst, hrest⟩ := List.pairwise_cons.mp hsorted
      have hm : orderedMember rank m = m := by
        rw [orderedMember, hvalues m List.mem_cons_self]
      rw [orderedMembers, hm, ih hrest fun n hn => hvalues n (List.mem_cons_of_mem m hn),
        insertMember_of_lt hfirst]

/-! ## Ordering twice -/

mutual

/-- **A value in order stays as it is.** -/
theorem ordered_ordered (hrank : Function.Injective rank) :
    ∀ v : Json, ordered rank (ordered rank v) = ordered rank v
  | .null => rfl
  | .bool _ => rfl
  | .num _ => rfl
  | .str _ => rfl
  | .arr xs => by rw [ordered, ordered, orderedElems_orderedElems hrank xs]
  | .obj ms => by
      rw [ordered, ordered, orderedMembers_of_sorted (sorted_orderedMembers hrank ms)
        (values_orderedMembers hrank ms)]

/-- Ordering the elements of an array again changes nothing. -/
theorem orderedElems_orderedElems (hrank : Function.Injective rank) :
    ∀ xs : List Json, orderedElems rank (orderedElems rank xs) = orderedElems rank xs
  | [] => rfl
  | x :: xs => by
      rw [orderedElems, orderedElems, ordered_ordered hrank x, orderedElems_orderedElems hrank xs]

/-- The value of an ordered member is ordered. -/
theorem value_orderedMember (hrank : Function.Injective rank) :
    ∀ m : String × Json, ordered rank (orderedMember rank m).2 = (orderedMember rank m).2
  | (_, v) => ordered_ordered hrank v

/-- The values of ordered members are ordered. -/
theorem values_orderedMembers (hrank : Function.Injective rank) :
    ∀ (ms : List (String × Json)), ∀ m ∈ orderedMembers rank ms, ordered rank m.2 = m.2
  | [], _, hm => absurd hm List.not_mem_nil
  | n :: ms, m, hm => by
      rw [orderedMembers] at hm
      rcases mem_insertMember hm with rfl | hm
      · exact value_orderedMember hrank n
      · exact values_orderedMembers hrank ms m hm

end

/-- Ordering the members of an object again changes nothing. -/
theorem orderedMembers_orderedMembers (hrank : Function.Injective rank)
    (ms : List (String × Json)) :
    orderedMembers rank (orderedMembers rank ms) = orderedMembers rank ms :=
  orderedMembers_of_sorted (sorted_orderedMembers hrank ms) (values_orderedMembers hrank ms)

/-! ## The order before -/

/-- A member with a new key is added to the others. -/
theorem insertMember_perm {m : String × Json} {ms : List (String × Json)}
    (h : m.1 ∉ ms.map Prod.fst) : (insertMember rank m ms).Perm (m :: ms) := by
  induction ms with
  | nil => exact .refl _
  | cons n ms ih =>
      rw [List.map_cons, List.mem_cons, not_or] at h
      rw [insertMember]
      split_ifs with hlt heq
      · exact .refl _
      · exact absurd heq h.1
      · exact ((ih h.2).cons n).trans (.swap m n ms)

/-- Ordering changes no key. -/
theorem orderedMember_fst (m : String × Json) : (orderedMember rank m).1 = m.1 := by
  obtain ⟨k, v⟩ := m
  rfl

variable (rank) in
/-- Of an object that has every key once all members are left. -/
theorem orderedMembers_perm_map {ms : List (String × Json)} (h : (ms.map Prod.fst).Nodup) :
    (orderedMembers rank ms).Perm (ms.map (orderedMember rank)) := by
  induction ms with
  | nil => exact .refl _
  | cons m ms ih =>
      rw [List.map_cons, List.nodup_cons] at h
      have hrest := ih h.2
      have hkeys : (ms.map (orderedMember rank)).map Prod.fst = ms.map Prod.fst := by
        rw [List.map_map]
        exact List.map_congr_left fun m _ => orderedMember_fst m
      have hnew : (orderedMember rank m).1 ∉ (orderedMembers rank ms).map Prod.fst := by
        rw [(hrest.map Prod.fst).mem_iff, hkeys, orderedMember_fst]
        exact h.1
      rw [orderedMembers, List.map_cons]
      exact (insertMember_perm hnew).trans (hrest.cons _)

/-- **Two objects are left the same when they have the same members**, in
whatever order. -/
theorem orderedMembers_eq_iff (hrank : Function.Injective rank) {ms ns : List (String × Json)}
    (hms : (ms.map Prod.fst).Nodup) (hns : (ns.map Prod.fst).Nodup) :
    orderedMembers rank ms = orderedMembers rank ns ↔
      (ms.map (orderedMember rank)).Perm (ns.map (orderedMember rank)) := by
  have hleft := orderedMembers_perm_map rank hms
  have hright := orderedMembers_perm_map rank hns
  constructor
  · intro h
    rw [h] at hleft
    exact hleft.symm.trans hright
  · intro h
    refine List.Perm.eq_of_pairwise (fun a b _ _ hab hba => absurd hba (not_lt_of_gt hab))
      (sorted_orderedMembers hrank ms) (sorted_orderedMembers hrank ns) ?_
    exact (hleft.trans h).trans hright.symm

/-! ## Strings -/

/-- A property of the strings of an array is one of each element. -/
theorem allElems_iff (p : String → Bool) (xs : List Json) :
    allElems p xs = true ↔ ∀ x ∈ xs, all p x = true := by
  induction xs with
  | nil => simp [allElems]
  | cons x xs ih => rw [allElems, Bool.and_eq_true, ih, List.forall_mem_cons]

/-- A property of the strings of an object is one of its keys and values. -/
theorem allMembers_iff (p : String → Bool) (ms : List (String × Json)) :
    allMembers p ms = true ↔ ∀ m ∈ ms, p m.1 = true ∧ all p m.2 = true := by
  induction ms with
  | nil => simp [allMembers]
  | cons m ms ih =>
      obtain ⟨k, v⟩ := m
      rw [allMembers, allMember, Bool.and_eq_true, Bool.and_eq_true, ih, List.forall_mem_cons]

mutual

/-- The strings left are strings of the value. -/
theorem all_ordered (p : String → Bool) : ∀ v : Json, all p v = true → all p (ordered rank v) = true
  | .null, _ => rfl
  | .bool _, _ => rfl
  | .num _, _ => rfl
  | .str _, h => h
  | .arr xs, h => by
      rw [all] at h
      rw [ordered, all, allElems_orderedElems p xs h]
  | .obj ms, h => by
      rw [all] at h
      rw [ordered, all, allMembers_orderedMembers p ms h]

/-- Ordering keeps what holds of all strings of an array. -/
theorem allElems_orderedElems (p : String → Bool) :
    ∀ xs : List Json, allElems p xs = true → allElems p (orderedElems rank xs) = true
  | [], _ => rfl
  | x :: xs, h => by
      rw [allElems, Bool.and_eq_true] at h
      rw [orderedElems, allElems, all_ordered p x h.1, allElems_orderedElems p xs h.2]
      rfl

/-- Ordering keeps what holds of all strings of a member. -/
theorem allMember_orderedMember (p : String → Bool) :
    ∀ m : String × Json, allMember p m = true → allMember p (orderedMember rank m) = true
  | (k, v), h => by
      rw [allMember, Bool.and_eq_true] at h
      rw [orderedMember, allMember, h.1, all_ordered p v h.2]
      rfl

/-- Ordering keeps what holds of all strings of an object. -/
theorem allMembers_orderedMembers (p : String → Bool) :
    ∀ ms : List (String × Json), allMembers p ms = true → allMembers p (orderedMembers rank ms) = true
  | [], _ => rfl
  | m :: ms, h => by
      rw [allMembers, Bool.and_eq_true] at h
      have hm := allMember_orderedMember p m h.1
      have hms := allMembers_orderedMembers p ms h.2
      rw [orderedMembers, allMembers_iff]
      intro a ha
      rcases mem_insertMember ha with rfl | ha
      · generalize orderedMember rank m = a at hm
        obtain ⟨k, v⟩ := a
        rwa [allMember, Bool.and_eq_true] at hm
      · exact (allMembers_iff p _).mp hms a ha

end

end StoreKit.Json

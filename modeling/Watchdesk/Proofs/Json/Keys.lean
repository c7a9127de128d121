import Mathlib.Data.List.Induction
import Mathlib.Data.List.Nodup
import Watchdesk.Json.Value

/-!
# Members in the order of keys

The members of a JSON object stand in the order of their keys, each key once. Whatever order they
were given in, `Members.ofList` puts them there, and it leaves members alone that stand in it.
-/

namespace Watchdesk.Members

/-- The keys stand in their order, each of them once. -/
def Sorted (ms : Members) : Prop := ms.Pairwise fun a b => a.1 < b.1

variable {key : String} {value : Json} {ms : Members}

theorem mem_insert {m : String × Json} (member : m ∈ insert key value ms) :
    m = (key, value) ∨ m ∈ ms := by
  induction ms with
  | nil => exact .inl (List.mem_singleton.mp member)
  | cons head rest ih =>
    obtain ⟨k, v⟩ := head
    unfold insert at member
    split_ifs at member with before equal
    · exact List.mem_cons.mp member
    · rcases List.mem_cons.mp member with same | later
      · exact .inl same
      · exact .inr (List.mem_cons_of_mem _ later)
    · rcases List.mem_cons.mp member with same | later
      · exact .inr (same ▸ List.mem_cons_self)
      · rcases ih later with same | found
        · exact .inl same
        · exact .inr (List.mem_cons_of_mem _ found)

theorem Sorted.insert (sorted : Sorted ms) (key : String) (value : Json) :
    Sorted (insert key value ms) := by
  induction ms with
  | nil => exact List.pairwise_singleton _ _
  | cons head rest ih =>
    obtain ⟨k, v⟩ := head
    obtain ⟨first, more⟩ := List.pairwise_cons.mp sorted
    unfold Members.insert
    split_ifs with before equal
    · refine List.pairwise_cons.mpr ⟨?_, sorted⟩
      intro m member
      rcases List.mem_cons.mp member with rfl | later
      · exact before
      · exact String.lt_trans before (first m later)
    · subst equal
      exact List.pairwise_cons.mpr ⟨first, more⟩
    · refine List.pairwise_cons.mpr ⟨?_, ih more⟩
      intro m member
      rcases mem_insert member with rfl | found
      · have least := String.not_lt.mp before
        by_contra other
        exact equal (String.le_antisymm (String.not_lt.mp other) least)
      · exact first m found

/-- A new greatest key comes last. -/
theorem insert_last (greatest : ∀ m ∈ ms, m.1 < key) :
    insert key value ms = ms ++ [(key, value)] := by
  induction ms with
  | nil => rfl
  | cons head rest ih =>
    obtain ⟨k, v⟩ := head
    have below : k < key := greatest (k, v) List.mem_cons_self
    have other : key ≠ k := by
      intro equal
      exact String.lt_irrefl k (equal ▸ below)
    unfold insert
    rw [if_neg (String.lt_asymm below), if_neg other,
      ih fun m member => greatest m (List.mem_cons_of_mem _ member)]
    rfl

theorem insert_perm (new : key ∉ ms.map Prod.fst) :
    (insert key value ms).Perm ((key, value) :: ms) := by
  induction ms with
  | nil => exact List.Perm.refl _
  | cons head rest ih =>
    obtain ⟨k, v⟩ := head
    rw [List.map_cons, List.mem_cons, not_or] at new
    unfold insert
    split_ifs with before equal
    · exact List.Perm.refl _
    · exact absurd equal new.1
    · exact ((ih new.2).cons (k, v)).trans (List.Perm.swap _ _ _)

/-! ## Lists of members -/

theorem ofList_append_singleton (ms : Members) (m : String × Json) :
    ofList (ms ++ [m]) = insert m.1 m.2 (ofList ms) := by
  unfold ofList
  rw [List.foldl_append]
  rfl

theorem ofList_sorted (ms : List (String × Json)) : Sorted (ofList ms) := by
  induction ms using List.reverseRecOn with
  | nil => exact List.Pairwise.nil
  | append_singleton ms m ih =>
    rw [ofList_append_singleton]
    exact ih.insert m.1 m.2

theorem mem_ofList {m : String × Json} (member : m ∈ ofList ms) : m ∈ ms := by
  induction ms using List.reverseRecOn with
  | nil => exact member
  | append_singleton ms n ih =>
    rw [ofList_append_singleton] at member
    rcases mem_insert member with rfl | found
    · exact List.mem_append_right ms List.mem_cons_self
    · exact List.mem_append_left [n] (ih found)

theorem Sorted.ofList_eq (sorted : Sorted ms) : ofList ms = ms := by
  induction ms using List.reverseRecOn with
  | nil => rfl
  | append_singleton ms m ih =>
    obtain ⟨front, -, across⟩ := List.pairwise_append.mp sorted
    rw [ofList_append_singleton, ih front,
      insert_last fun n member => across n member m List.mem_cons_self]

/-- Members with different keys are only put into their order. -/
theorem ofList_perm (distinct : (ms.map Prod.fst).Nodup) : (ofList ms).Perm ms := by
  induction ms using List.reverseRecOn with
  | nil => exact List.Perm.refl _
  | append_singleton ms m ih =>
    rw [List.map_append, List.nodup_append] at distinct
    obtain ⟨front, -, apart⟩ := distinct
    have new : m.1 ∉ (ofList ms).map Prod.fst := by
      intro member
      obtain ⟨n, found, same⟩ := List.mem_map.mp member
      have there := List.mem_map.mpr ⟨n, mem_ofList found, same⟩
      exact apart m.1 there m.1 List.mem_cons_self rfl
    rw [ofList_append_singleton]
    exact (insert_perm new).trans (((ih front).cons m).trans (List.perm_append_singleton m ms).symm)

end Watchdesk.Members

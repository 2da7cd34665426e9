import ClientGen.Order.SortedSet
import Mathlib.Data.List.Dedup
import Mathlib.Data.List.Sort
import Mathlib.Data.List.SplitBy

/-!
# Groups of an ascending list

Where the elements of a list are compared by a key before anything else, those with one key stand
together, and the keys ascend. So to cut the list wherever the key changes gives one group for each
key, with all elements that have it.
-/

namespace ClientGen.SortedSet

variable {α : Type} {key : α → String} {l : List α} {k : String} {a : α}

/-- The keys of some elements, each of them once. -/
def keys (key : α → String) (l : List α) : List String := (l.map key).dedup

def withKey (key : α → String) (l : List α) (k : String) : List α := l.filter (key · == k)

theorem mem_keys : k ∈ keys key l ↔ ∃ a ∈ l, key a = k := by
  rw [keys, List.mem_dedup, List.mem_map]

theorem mem_withKey : a ∈ withKey key l k ↔ a ∈ l ∧ key a = k := by
  rw [withKey, List.mem_filter, beq_iff_eq]

theorem withKey_ne_nil (h : k ∈ keys key l) : withKey key l k ≠ [] := by
  obtain ⟨a, ha, hk⟩ := mem_keys.1 h
  exact List.ne_nil_of_mem (mem_withKey.2 ⟨ha, hk⟩)

/-- The elements are compared by the key before anything else. -/
structure IsFirstKey [LT α] (key : α → String) : Prop where
  lt_or_eq {a b : α} (h : a < b) : key a < key b ∨ key a = key b
  lt {a b : α} (h : key a < key b) : a < b

namespace IsFirstKey

variable [LT α] (hkey : IsFirstKey key)
include hkey

theorem pairwise_keys (h : l.Pairwise (· < ·)) : (keys key l).Pairwise (· < ·) := by
  have hle : (l.map key).Pairwise fun a b => a < b ∨ a = b :=
    List.pairwise_map.2 (h.imp hkey.lt_or_eq)
  refine ((hle.sublist (List.dedup_sublist _)).and (List.nodup_dedup _)).imp ?_
  rintro a b ⟨hlt | rfl, hne⟩
  · exact hlt
  · exact absurd rfl hne

variable [Std.Irrefl (α := α) (· < ·)] [Std.Antisymm (α := α) (· < ·)]

/-- Group by group, the elements of an ascending list are all there. -/
theorem flatten_withKey (h : l.Pairwise (· < ·)) :
    l = ((keys key l).map (withKey key l)).flatten := by
  -- Both lists ascend without repetition, so that they are equal if they have the same elements.
  refine h.eq_of_mem_iff (List.pairwise_flatten.2 ⟨?_, ?_⟩) fun a => ?_
  · intro group hgroup
    obtain ⟨k, -, rfl⟩ := List.mem_map.1 hgroup
    exact h.sublist List.filter_sublist
  · rw [List.pairwise_map]
    refine (hkey.pairwise_keys h).imp fun hk a ha b hb => hkey.lt ?_
    rwa [(mem_withKey.1 ha).2, (mem_withKey.1 hb).2]
  · rw [List.mem_flatten]
    constructor
    · exact fun ha => ⟨_, List.mem_map.2 ⟨key a, mem_keys.2 ⟨a, ha, rfl⟩, rfl⟩,
        mem_withKey.2 ⟨ha, rfl⟩⟩
    · rintro ⟨group, hgroup, ha⟩
      obtain ⟨k, -, rfl⟩ := List.mem_map.1 hgroup
      exact (mem_withKey.1 ha).1

/-- An ascending list falls into the groups of its keys. -/
theorem splitBy_eq (h : l.Pairwise (· < ·)) :
    (l.splitBy fun a b => key a == key b) = (keys key l).map (withKey key l) := by
  refine List.splitBy_eq_iff.2 ⟨hkey.flatten_withKey h, ?_, ?_, ?_⟩
  · intro hnil
    obtain ⟨k, hk, hempty⟩ := List.mem_map.1 hnil
    exact withKey_ne_nil hk hempty
  · intro group hgroup
    obtain ⟨k, -, rfl⟩ := List.mem_map.1 hgroup
    refine (List.pairwise_iff_forall_sublist.2 fun {a b} hab => ?_).isChain
    have ha : a ∈ withKey key l k := hab.subset (by simp)
    have hb : b ∈ withKey key l k := hab.subset (by simp)
    rw [(mem_withKey.1 ha).2, (mem_withKey.1 hb).2, beq_self_eq_true]
  · -- The last element of a group and the first one of the next have different keys.
    have hne : (keys key l).Pairwise fun j k =>
        ∃ hj hk, (key ((withKey key l j).getLast hj) == key ((withKey key l k).head hk)) =
          false := by
      refine (hkey.pairwise_keys h).imp_of_mem fun {j k} hj hk hjk =>
        ⟨withKey_ne_nil hj, withKey_ne_nil hk, ?_⟩
      have hlast := (mem_withKey.1 (List.getLast_mem (withKey_ne_nil hj))).2
      have hhead := (mem_withKey.1 (List.head_mem (withKey_ne_nil hk))).2
      rw [hlast, hhead, beq_eq_false_iff_ne]
      rintro rfl
      exact String.lt_irrefl _ hjk
    exact (List.isChain_map _).2 hne.isChain

end IsFirstKey

end ClientGen.SortedSet

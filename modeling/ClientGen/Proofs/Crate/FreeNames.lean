import ClientGen.Crate.Types
import Mathlib.Data.List.Nodup
import Mathlib.Data.List.Perm.Subperm
import Mathlib.Data.Nat.Find
import Mathlib.Logic.Function.Iterate
import Mathlib.Order.Monotone.Basic

/-!
# The name of the variant for values that are not known

The name is looked for by a loop: `Unknown` is made longer while a value takes it. The names that are
tried grow and so are all different, and each of them that is taken needs a value of its own. So the
loop ends by itself, after as many turns as there are values at most; the bound that
`unknownVariant` puts on its turns never stops it.
-/

namespace ClientGen

variable {taken : List String} {name : String} {turns tries : Nat}

/-! ## Names that grow -/

/-- The name after some turns of the loop: `name`, `nameValue`, `nameValueValue` and so on. -/
def lengthened (name : String) (turns : Nat) : String := (· ++ "Value")^[turns] name

theorem lengthened_succ (name : String) (turns : Nat) :
    lengthened name (turns + 1) = lengthened (name ++ "Value") turns := rfl

theorem lengthened_succ_eq_append (name : String) (turns : Nat) :
    lengthened name (turns + 1) = lengthened name turns ++ "Value" :=
  Function.iterate_succ_apply' ..

theorem toList_lengthened (name : String) (turns : Nat) :
    (lengthened name turns).toList =
      name.toList ++ (List.replicate turns "Value".toList).flatten := by
  induction turns generalizing name with
  | zero => exact (List.append_nil _).symm
  | succ turns ih =>
    rw [lengthened_succ, ih, String.toList_append, List.append_assoc]
    rfl

theorem strictMono_length_lengthened (name : String) :
    StrictMono fun turns => (lengthened name turns).length := by
  apply strictMono_nat_of_lt_succ
  intro turns
  have hlength : "Value".length = 5 := rfl
  rw [lengthened_succ_eq_append, String.length_append]
  omega

theorem lengthened_injective (name : String) : Function.Injective (lengthened name) := by
  intro a b heq
  exact (strictMono_length_lengthened name).injective (congrArg String.length heq)

/-- Each name that is tried and taken is another one, so that there are no more of them than there
are taken names. -/
theorem le_length_of_taken (h : ∀ k < turns, lengthened name k ∈ taken) : turns ≤ taken.length := by
  have hnodup : ((List.range turns).map (lengthened name)).Nodup :=
    List.nodup_range.map (lengthened_injective name)
  have hsubset : (List.range turns).map (lengthened name) ⊆ taken := by
    intro candidate hmem
    obtain ⟨k, hk, rfl⟩ := List.mem_map.1 hmem
    exact h k (List.mem_range.1 hk)
  simpa using (hnodup.subperm hsubset).length_le

/-! ## The first name that is free -/

/-- The name that the loop has after these turns is free, and none before it is. -/
structure IsFirstFree (taken : List String) (name : String) (turns : Nat) : Prop where
  free : lengthened name turns ∉ taken
  before : ∀ k < turns, lengthened name k ∈ taken

theorem exists_isFirstFree (taken : List String) (name : String) :
    ∃ turns ≤ taken.length, IsFirstFree taken name turns := by
  have hfree : ∃ turns, lengthened name turns ∉ taken := by
    by_contra hnever
    have htaken : ∀ k < taken.length + 1, lengthened name k ∈ taken := fun k _ =>
      not_not.1 fun hfree => hnever ⟨k, hfree⟩
    have hle := le_length_of_taken htaken
    omega
  have hbefore : ∀ k < Nat.find hfree, lengthened name k ∈ taken := fun k hk =>
    not_not.1 (Nat.find_min hfree hk)
  exact ⟨Nat.find hfree, le_length_of_taken hbefore, Nat.find_spec hfree, hbefore⟩

/-! ## The loop -/

/-- The loop without a bound on its turns, where it has come to a name, ends with a result: with the
name itself if this is free, and else as it ends after the next turn. -/
inductive SearchEnds (taken : List String) : String → String → Prop
  | free {name : String} (hfree : name ∉ taken) : SearchEnds taken name name
  | turn {name result : String} (htaken : name ∈ taken)
      (hends : SearchEnds taken (name ++ "Value") result) : SearchEnds taken name result

theorem freeName_of_mem (h : name ∈ taken) :
    freeName taken (tries + 1) name = freeName taken tries (name ++ "Value") :=
  if_pos (List.contains_iff_mem.2 h)

theorem freeName_of_not_mem (h : name ∉ taken) : freeName taken tries name = name := by
  cases tries with
  | zero => rfl
  | succ tries => exact if_neg (mt List.contains_iff_mem.1 h)

namespace IsFirstFree

/-- A turn of the loop keeps what is to be found, and takes one turn less to find it. -/
theorem of_succ (h : IsFirstFree taken name (turns + 1)) :
    name ∈ taken ∧ IsFirstFree taken (name ++ "Value") turns :=
  ⟨h.before 0 (Nat.succ_pos turns), h.free, fun k hk => h.before (k + 1) (Nat.succ_lt_succ hk)⟩

/-- The loop ends, at the first name that is free, and nowhere else. -/
theorem searchEnds_iff (h : IsFirstFree taken name turns) {result : String} :
    SearchEnds taken name result ↔ result = lengthened name turns := by
  induction turns generalizing name with
  | zero =>
    constructor
    · intro hends
      cases hends with
      | free _ => rfl
      | turn htaken _ => exact absurd htaken h.free
    · rintro rfl
      exact .free h.free
  | succ turns ih =>
    obtain ⟨htaken, hnext⟩ := h.of_succ
    rw [lengthened_succ, ← ih hnext]
    constructor
    · intro hends
      cases hends with
      | free hfree => exact absurd htaken hfree
      | turn _ hends => exact hends
    · exact .turn htaken

/-- The loop with a bound ends there too, where the bound allows for its turns. -/
theorem freeName_eq (h : IsFirstFree taken name turns) (hle : turns ≤ tries) :
    freeName taken tries name = lengthened name turns := by
  induction turns generalizing name tries with
  | zero => exact freeName_of_not_mem h.free
  | succ turns ih =>
    obtain ⟨htaken, hnext⟩ := h.of_succ
    obtain ⟨tries, rfl⟩ := Nat.exists_eq_add_of_lt hle
    rw [freeName_of_mem htaken, ih hnext (by omega), lengthened_succ]

end IsFirstFree

/-! ## The variant -/

theorem exists_unknownVariant (values : List EnumValue) :
    ∃ turns ≤ values.length, IsFirstFree (values.map EnumValue.variant) "Unknown" turns ∧
      unknownVariant values = lengthened "Unknown" turns := by
  obtain ⟨turns, hle, hfirst⟩ := exists_isFirstFree (values.map EnumValue.variant) "Unknown"
  rw [List.length_map] at hle
  exact ⟨turns, hle, hfirst, hfirst.freeName_eq hle⟩

theorem unknownVariant_not_mem (values : List EnumValue) :
    unknownVariant values ∉ values.map EnumValue.variant := by
  obtain ⟨turns, -, hfirst, heq⟩ := exists_unknownVariant values
  rw [heq]
  exact hfirst.free

/-- The loop that looks for the name ends for every list of values, after as many turns as there are
values at most, and with this result only. Each name that it leaves behind is the type name of a
value. The result starts with `Unknown` and is the type name of no value. -/
theorem unknownVariant_first_free (values : List EnumValue) :
    (∀ result, SearchEnds (values.map fun v => Naming.typeName v.name) "Unknown" result ↔
        result = unknownVariant values) ∧
      (∃ turns ≤ values.length, unknownVariant values = lengthened "Unknown" turns ∧
        ∀ k < turns, ∃ v ∈ values, Naming.typeName v.name = lengthened "Unknown" k) ∧
      "Unknown".toList <+: (unknownVariant values).toList ∧
      ∀ v ∈ values, Naming.typeName v.name ≠ unknownVariant values := by
  obtain ⟨turns, hle, hfirst, heq⟩ := exists_unknownVariant values
  rw [heq]
  refine ⟨fun result => hfirst.searchEnds_iff, ⟨turns, hle, rfl, ?_⟩, ?_, ?_⟩
  · intro k hk
    exact List.mem_map.1 (hfirst.before k hk)
  · rw [toList_lengthened]
    exact List.prefix_append ..
  · intro v hv htaken
    exact hfirst.free (List.mem_map.2 ⟨v, hv, htaken⟩)

example : unknownVariant [⟨"UNKNOWN", "?"⟩, ⟨"shut", "s"⟩, ⟨"unknown-value", "!"⟩] =
    "UnknownValueValue" := by decide +kernel

end ClientGen

import ClientGen.Code.Import
import ClientGen.Dependency
import ClientGen.Proofs.Order.Groups
import Mathlib.Data.List.Lex
import Mathlib.Order.Basic

/-!
# Orders by parts

Imports and packages are compared by their first parts, and where these are equal by the next ones.
The order of the whole is strict and linear because that of each part is, and the first part is a key
by which ascending lists fall into groups.
-/

namespace ClientGen

/-! ## Parts -/

theorem eq_of_not_lt_string {a b : String} (hab : ¬ a < b) (hba : ¬ b < a) : a = b :=
  String.le_antisymm hba hab

theorem eq_of_not_lt_option {a b : Option String} (hab : ¬ a < b) (hba : ¬ b < a) : a = b := by
  cases a with
  | none =>
    cases b with
    | none => rfl
    | some b => exact absurd trivial hab
  | some a =>
    cases b with
    | none => exact absurd trivial hba
    | some b => exact congrArg some (eq_of_not_lt_string hab hba)

theorem eq_of_not_lt_list {a b : List String} (hab : ¬ a < b) (hba : ¬ b < a) : a = b :=
  List.le_antisymm hba hab

/-- Pairs that are compared by their first parts, and where these are equal by their second. -/
theorem lex_trans {α : Type} [LT α] (trans : ∀ {a b c : α}, a < b → b < c → a < c) {a b c : α}
    {p q r : Prop} (hrest : p → q → r) (hab : a < b ∨ (a = b ∧ p)) (hbc : b < c ∨ (b = c ∧ q)) :
    a < c ∨ (a = c ∧ r) := by
  rcases hab with hab | ⟨rfl, hp⟩
  · rcases hbc with hbc | ⟨rfl, -⟩
    · exact .inl (trans hab hbc)
    · exact .inl hab
  · exact hbc.imp_right fun ⟨hac, hq⟩ => ⟨hac, hrest hp hq⟩

theorem lt_trans_option {a b c : Option String} (hab : a < b) (hbc : b < c) : a < c := by
  cases c with
  | none => cases b <;> cases hbc
  | some c =>
    cases b with
    | none => cases a <;> cases hab
    | some b =>
      cases a with
      | none => trivial
      | some a => exact String.lt_trans (a := a) (b := b) (c := c) hab hbc

theorem lt_irrefl_option (a : Option String) : ¬ a < a := by
  cases a with
  | none => exact id
  | some a => exact String.lt_irrefl a

/-! ## Imports -/

namespace Import

theorem lt_trans {a b c : Import} (hab : a < b) (hbc : b < c) : a < c :=
  lex_trans String.lt_trans (lex_trans String.lt_trans lt_trans_option) hab hbc

theorem lt_irrefl (a : Import) : ¬ a < a := by
  rintro (hns | ⟨-, hname | ⟨-, hlocal⟩⟩)
  · exact String.lt_irrefl _ hns
  · exact String.lt_irrefl _ hname
  · exact lt_irrefl_option _ hlocal

instance : Std.Irrefl (α := Import) (· < ·) := ⟨lt_irrefl⟩

instance : Std.Antisymm (α := Import) (· < ·) :=
  ⟨fun _ _ hab hba => absurd (lt_trans hab hba) (lt_irrefl _)⟩

instance : SortedSet.Trichotomous Import where
  eq_of_not_lt {a b} hab hba := by
    obtain ⟨ns, name, localName⟩ := a
    obtain ⟨ns', name', localName'⟩ := b
    obtain rfl : ns = ns' := eq_of_not_lt_string (fun h => hab (.inl h)) fun h => hba (.inl h)
    obtain rfl : name = name' := eq_of_not_lt_string (fun h => hab (.inr ⟨rfl, .inl h⟩))
      fun h => hba (.inr ⟨rfl, .inl h⟩)
    obtain rfl : localName = localName' :=
      eq_of_not_lt_option (fun h => hab (.inr ⟨rfl, .inr ⟨rfl, h⟩⟩))
        fun h => hba (.inr ⟨rfl, .inr ⟨rfl, h⟩⟩)
    rfl

theorem isFirstKey_ns : SortedSet.IsFirstKey Import.ns where
  lt_or_eq h := h.imp_right And.left
  lt h := .inl h

end Import

/-! ## Packages -/

namespace Dependency

theorem lt_trans {a b c : Dependency} (hab : a < b) (hbc : b < c) : a < c :=
  lex_trans String.lt_trans
    (lex_trans String.lt_trans (lex_trans List.lt_trans lt_trans_option)) hab hbc

theorem lt_irrefl (d : Dependency) : ¬ d < d := by
  rintro (h | ⟨-, h | ⟨-, h | ⟨-, h⟩⟩⟩)
  · exact String.lt_irrefl _ h
  · exact String.lt_irrefl _ h
  · exact List.lt_irrefl _ h
  · exact lt_irrefl_option _ h

instance : Std.Irrefl (α := Dependency) (· < ·) := ⟨lt_irrefl⟩

instance : Std.Antisymm (α := Dependency) (· < ·) :=
  ⟨fun _ _ hab hba => absurd (lt_trans hab hba) (lt_irrefl _)⟩

instance : SortedSet.Trichotomous Dependency where
  eq_of_not_lt {a b} hab hba := by
    obtain ⟨name, version, features, git⟩ := a
    obtain ⟨name', version', features', git'⟩ := b
    obtain rfl : name = name' := eq_of_not_lt_string (fun h => hab (.inl h)) fun h => hba (.inl h)
    obtain rfl : version = version' := eq_of_not_lt_string (fun h => hab (.inr ⟨rfl, .inl h⟩))
      fun h => hba (.inr ⟨rfl, .inl h⟩)
    obtain rfl : features = features' :=
      eq_of_not_lt_list (fun h => hab (.inr ⟨rfl, .inr ⟨rfl, .inl h⟩⟩))
        fun h => hba (.inr ⟨rfl, .inr ⟨rfl, .inl h⟩⟩)
    obtain rfl : git = git' :=
      eq_of_not_lt_option (fun h => hab (.inr ⟨rfl, .inr ⟨rfl, .inr ⟨rfl, h⟩⟩⟩))
        fun h => hba (.inr ⟨rfl, .inr ⟨rfl, .inr ⟨rfl, h⟩⟩⟩)
    rfl

theorem isFirstKey_name : SortedSet.IsFirstKey Dependency.name where
  lt_or_eq h := h.imp_right And.left
  lt h := .inl h

end Dependency

end ClientGen

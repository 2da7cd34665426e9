import ClientGen.Order.SortedSet

/-! The packages that generated code depends on. -/

namespace ClientGen

/-- A package, with the features it is built with. -/
structure Dependency where
  name : String
  version : String
  features : List String
  /-- The repository to take it from, in the place of the registry. -/
  git : Option String
deriving DecidableEq, Inhabited

namespace Dependency

/-- A package of the registry without features. -/
def ofVersion (name version : String) : Dependency := ⟨name, version, [], none⟩

/-- By name, then by version, then by features, then by repository; none comes first. -/
protected def lt (a b : Dependency) : Prop :=
  a.name < b.name ∨ (a.name = b.name ∧ (a.version < b.version ∨ (a.version = b.version ∧
    (a.features < b.features ∨ (a.features = b.features ∧ a.git < b.git)))))

instance : LT Dependency := ⟨Dependency.lt⟩

instance (a b : Dependency) : Decidable (a < b) :=
  inferInstanceAs (Decidable (a.name < b.name ∨ (a.name = b.name ∧ (a.version < b.version ∨
    (a.version = b.version ∧ (a.features < b.features ∨
      (a.features = b.features ∧ a.git < b.git)))))))

/-- The values that every codec reads and writes. -/
def json : Dependency := ofVersion "serde_json" "1.0"

/-- The text form of binary data. -/
def base64 : Dependency := ofVersion "base64" "0.22"

def errors : Dependency := ofVersion "thiserror" "2.0"

example : ofVersion "a" "1" < ofVersion "a" "2" ∧
    ofVersion "a" "1" < { ofVersion "a" "1" with git := some "" } := by decide

end Dependency

end ClientGen

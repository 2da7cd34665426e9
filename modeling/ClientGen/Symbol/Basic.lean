import ClientGen.Dependency

/-!
# How a shape appears in generated code

A symbol is a type with what is needed to use it, namely where its head is defined, whether a value
may be absent, and the packages it depends on.
-/

namespace ClientGen

/-- A type of the generated code. -/
structure Symbol where
  /-- The type as it is declared, without its option. -/
  name : String
  /-- The module that defines the head of the type; empty when it is always in scope. -/
  ns : String
  /-- What is imported from the module. -/
  definition : String
  /-- Whether a value may be absent. -/
  nullable : Bool
  /-- The expression for an absent value when none may be. -/
  fallback : Option String
  dependencies : List Dependency
  /-- The types inside this one. -/
  references : List Symbol
deriving Inhabited

namespace Symbol

/-- A type that is imported by its own name. -/
def ofName (name ns : String) : Symbol := ⟨name, ns, name, false, none, [], []⟩

/-- A type made of others, imported by the name of its head. -/
def container (name ns definition : String) (references : List Symbol) : Symbol :=
  ⟨name, ns, definition, false, none, [], references⟩

/-- The symbol with one more package. -/
def withDependency (s : Symbol) (d : Dependency) : Symbol :=
  { s with dependencies := s.dependencies ++ [d] }

/-- The symbol with an expression for absent values, which makes it not nullable. -/
def withFallback (s : Symbol) (expr : String) : Symbol :=
  { s with fallback := some expr, nullable := false }

def withNullable (s : Symbol) (nullable : Bool) : Symbol := { s with nullable }

def boxed (s : Symbol) : Symbol :=
  { s with name := s!"Box<{s.name}>", fallback := s.fallback.map fun d => s!"Box::new({d})" }

def isBoxed (s : Symbol) : Bool := "Box<".toList.isPrefixOf s.name.toList

def declaredType (s : Symbol) : String := if s.nullable then s!"Option<{s.name}>" else s.name

def absentValue (s : Symbol) : String :=
  if s.nullable then "None" else s.fallback.getD "Default::default()"

mutual

/-- The symbol and all that stand inside it, each before those inside it. -/
def parts : Symbol → List Symbol
  | ⟨name, ns, definition, nullable, fallback, dependencies, references⟩ =>
    ⟨name, ns, definition, nullable, fallback, dependencies, references⟩ :: partsOfAll references

def partsOfAll : List Symbol → List Symbol
  | [] => []
  | s :: rest => s.parts ++ partsOfAll rest

end

/-- The packages of the symbol and of all that stand inside it. -/
def transitiveDependencies (s : Symbol) : List Dependency :=
  SortedSet.ofList (s.parts.flatMap (·.dependencies))

end Symbol

end ClientGen

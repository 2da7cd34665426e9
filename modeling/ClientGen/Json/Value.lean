import ClientGen.Decimal.Text

/-!
# JSON values

Integers that fit sixty-four bits, signed or unsigned, are kept exactly; every other number is a
double.
-/

namespace ClientGen.Json

open ClientGen.Decimal

/-- A JSON number: an integer from `-2^63` to `2^64 - 1`, or a double. -/
inductive Number
  | integer (n : Int)
  | double (d : Double)
deriving DecidableEq

def Number.text : Number → String
  | .integer n => toString n
  | .double d => d.documentText

/-- A JSON value. The fields of an object stand in the order in which they are written. -/
inductive Value
  | null
  | bool (b : Bool)
  | number (n : Number)
  | string (s : String)
  | array (elements : List Value)
  | object (fields : List (String × Value))
deriving Inhabited

namespace Value

mutual

/-- Equality of values is decided part by part. -/
def decEq : (a b : Value) → Decidable (a = b)
  | .null, .null => isTrue rfl
  | .bool a, .bool b => decidable_of_iff (a = b) (by simp)
  | .number a, .number b => decidable_of_iff (a = b) (by simp)
  | .string a, .string b => decidable_of_iff (a = b) (by simp)
  | .array a, .array b =>
    match decEqElements a b with
    | isTrue h => isTrue (by rw [h])
    | isFalse h => isFalse fun e => h (by cases e; rfl)
  | .object a, .object b =>
    match decEqFields a b with
    | isTrue h => isTrue (by rw [h])
    | isFalse h => isFalse fun e => h (by cases e; rfl)
  | .null, .bool _ | .null, .number _ | .null, .string _ | .null, .array _ | .null, .object _
  | .bool _, .null | .bool _, .number _ | .bool _, .string _ | .bool _, .array _
  | .bool _, .object _ | .number _, .null | .number _, .bool _ | .number _, .string _
  | .number _, .array _ | .number _, .object _ | .string _, .null | .string _, .bool _
  | .string _, .number _ | .string _, .array _ | .string _, .object _ | .array _, .null
  | .array _, .bool _ | .array _, .number _ | .array _, .string _ | .array _, .object _
  | .object _, .null | .object _, .bool _ | .object _, .number _ | .object _, .string _
  | .object _, .array _ => isFalse nofun

def decEqElements : (a b : List Value) → Decidable (a = b)
  | [], [] => isTrue rfl
  | [], _ :: _ | _ :: _, [] => isFalse nofun
  | a :: as, b :: bs =>
    match decEq a b, decEqElements as bs with
    | isTrue h, isTrue t => isTrue (by rw [h, t])
    | isFalse h, _ => isFalse fun e => h (by cases e; rfl)
    | _, isFalse t => isFalse fun e => t (by cases e; rfl)

def decEqFields : (a b : List (String × Value)) → Decidable (a = b)
  | [], [] => isTrue rfl
  | [], _ :: _ | _ :: _, [] => isFalse nofun
  | (n, a) :: as, (m, b) :: bs =>
    if hn : n = m then
      match decEq a b, decEqFields as bs with
      | isTrue h, isTrue t => isTrue (by rw [hn, h, t])
      | isFalse h, _ => isFalse fun e => h (by cases e; rfl)
      | _, isFalse t => isFalse fun e => t (by cases e; rfl)
    else isFalse fun e => hn (by cases e; rfl)

end

instance : DecidableEq Value := decEq

/-- The fields with one more, in the order of the names; a field of the same name gives way. -/
def insertField (name : String) (value : Value) :
    List (String × Value) → List (String × Value)
  | [] => [(name, value)]
  | (other, old) :: rest =>
    if name < other then (name, value) :: (other, old) :: rest
    else if name = other then (name, value) :: rest
    else (other, old) :: insertField name value rest

/-- The value of the field with the name. -/
def field? (v : Value) (name : String) : Option Value :=
  match v with
  | .object fields => (fields.find? (·.1 == name)).map (·.2)
  | _ => none

/-- The value, if it is present and not null. -/
def present? : Option Value → Option Value
  | some .null => none
  | v => v

end Value

end ClientGen.Json

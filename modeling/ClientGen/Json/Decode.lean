import ClientGen.Json.Node
import ClientGen.Json.Number
import ClientGen.Text.Quoted

/-!
# Reading typed values off a tree

The tree is walked in the order of the text, so that of several problems the first one is reported.
Records may be written as objects or as arrays of their fields, and variants as a tag alone or as an
object with the tag as its key. Keys that a record does not know are passed over, and what they hold
is only checked for its form.
-/

namespace ClientGen.Json

open ClientGen.Decimal

/-- Why a document cannot be read. -/
inductive Failure
  /-- The text is no JSON, or has a shape that the reader cannot enter. -/
  | malformed
  /-- The text ends too early. -/
  | ended
  /-- The text holds a value that is not the expected one. -/
  | mismatch (message : String)
deriving DecidableEq

/-- A reader of values, given how many more containers may be entered. -/
abbrev Decoder (α : Type) := Nat → Node → Except Failure α

/-- How many containers may stand inside each other: one less than this. -/
def nestingLimit : Nat := 128

/-- Enters a container, unless it is nested too deeply. -/
def enter {α : Type} (depth : Nat) (inside : Nat → Except Failure α) : Except Failure α :=
  match depth with
  | inner + 2 => inside (inner + 1)
  | _ => .error .malformed

/-! ## Faults -/

/-- A fault where any value is read. -/
def Fault.failure : Fault → Failure
  | .ended | .endedInNumber | .endedInNull | .endedInBool => .ended
  | .malformed => .malformed

/-- A fault where a value is passed over: a number that breaks off is malformed. -/
def Fault.skipFailure : Fault → Failure
  | .ended | .endedInNull | .endedInBool => .ended
  | .endedInNumber | .malformed => .malformed

/-- A fault where a variant is read, which looks at no more than the first character. -/
def Fault.tagFailure : Fault → Failure
  | .ended => .ended
  | _ => .malformed

/-! ## Strings -/

/-- The failure, if the string does not end. -/
def TextEnd.check : TextEnd → Except Failure Unit
  | .closed => .ok ()
  | .ended => .error .ended
  | .malformed => .error .malformed

/-- The characters of the pieces. Two UTF-16 units that form a pair are one character; a unit that
lacks its partner is malformed. -/
def decodePieces (ending : TextEnd) : List Piece → Except Failure (List Char)
  | [] => do
    ending.check
    pure []
  | .char c :: rest => do pure (c :: (← decodePieces ending rest))
  | .unit n :: rest =>
    if 0xdc00 ≤ n ∧ n ≤ 0xdfff then .error .malformed
    else if 0xd800 ≤ n ∧ n ≤ 0xdbff then
      match rest with
      | .unit m :: rest =>
        if 0xdc00 ≤ m ∧ m ≤ 0xdfff then do
          let c := Char.ofNat ((n - 0xd800) * 0x400 + (m - 0xdc00) + 0x10000)
          pure (c :: (← decodePieces ending rest))
        else .error .malformed
      | .char _ :: _ => .error .malformed
      | [] => .error (if ending = .ended then .ended else .malformed)
    else do pure (Char.ofNat n :: (← decodePieces ending rest))

def RawText.decode (t : RawText) : Except Failure String :=
  (decodePieces t.ending t.pieces).map String.ofList

/-! ## Values that are not the expected ones -/

def Numeral.decode (n : Numeral) : Except Failure Number :=
  match n.value? with
  | some v => .ok v
  | none => .error .malformed

/-- A number as a message names it. -/
def Number.describe : Number → String
  | .integer n => s!"integer `{n}`"
  | .double d => s!"floating point `{d.documentText}`"

/-- A boolean as a message names it. -/
def describeBool (b : Bool) : String := s!"boolean `{b}`"

/-- What stands in the text, as a message names it. -/
def Node.describe : Node → Except Failure String
  | .fault f => .error f.failure
  | .null => .ok "null"
  | .bool b => .ok (describeBool b)
  | .number n => n.decode.map Number.describe
  | .text t => t.decode.map fun s => s!"string {Text.literal s}"
  | .array _ _ => .ok "sequence"
  | .object _ _ => .ok "map"

/-- A token in the place of a tag, as a message names it. -/
def Token.describe : Token → Except Failure String
  | .openBrace => .ok "map"
  | .openBracket => .ok "sequence"
  | .null => .ok "null"
  | .bool b => .ok (describeBool b)
  | .number n => n.decode.map Number.describe
  | .text t => t.decode.map fun s => s!"string {Text.literal s}"
  | .fault f => .error f.failure
  | .closeBrace | .closeBracket | .comma | .colon => .error .malformed

/-- The failure of a value that is not the expected one. -/
def mismatched {α : Type} (expected : String) (found : Except Failure String) : Except Failure α :=
  match found with
  | .ok what => .error (.mismatch s!"invalid type: {what}, expected {expected}")
  | .error e => .error e

/-! ## Passing over -/

/-- The end of an array whose elements have been read as a sequence. -/
def ArrayEnd.check : ArrayEnd → Except Failure Unit
  | .closed => .ok ()
  | .ended | .endedAfterComma => .error .ended
  | .malformed => .error .malformed

/-- The end of an object whose entries have been read. -/
def ObjectEnd.check : ObjectEnd → Except Failure Unit
  | .closed => .ok ()
  | .ended | .endedAfterComma => .error .ended
  | .malformed | .oddKey _ => .error .malformed

mutual

/-- Checks the form of a value that nobody reads. -/
def Node.skip : Node → Except Failure Unit
  | .fault f => .error f.skipFailure
  | .null | .bool _ | .number _ => .ok ()
  | .text t => t.ending.check
  | .array elements ending => do
    skipElements elements
    ending.check
  | .object entries ending => do
    skipEntries entries
    ending.check

/-- Checks the form of elements that nobody reads. -/
def skipElements : List Node → Except Failure Unit
  | [] => .ok ()
  | v :: rest => do
    v.skip
    skipElements rest

/-- Checks the form of entries that nobody reads. -/
def skipEntries : List (RawText × Node) → Except Failure Unit
  | [] => .ok ()
  | (key, v) :: rest => do
    key.ending.check
    v.skip
    skipEntries rest

end

/-! ## Plain values -/

namespace Decoder

def string : Decoder String := fun _ v =>
  match v with
  | .text t => t.decode
  | v => mismatched "a string" v.describe

def bool : Decoder Bool := fun _ v =>
  match v with
  | .bool b => .ok b
  | v => mismatched "a boolean" v.describe

/-- Null alone. -/
def unit : Decoder Unit := fun _ v =>
  match v with
  | .null => .ok ()
  | v => mismatched "unit" v.describe

/-- A value that may be null. -/
def optional {α : Type} (d : Decoder α) : Decoder (Option α) := fun depth v =>
  match v with
  | .null => .ok none
  | .fault .endedInNull => .error .ended
  | v => (d depth v).map some

def list {α : Type} (d : Decoder α) : Decoder (List α) := fun depth v =>
  match v with
  | .array elements ending => enter depth fun depth => do
    let values ← elements.mapM (d depth)
    ending.check
    pure values
  | v => mismatched "a sequence" v.describe

end Decoder

mutual

/-- Any value. A repeated field of an object counts with its last value. -/
def Node.toValue (depth : Nat) : Node → Except Failure Value
  | .fault f => .error f.failure
  | .null => .ok .null
  | .bool b => .ok (.bool b)
  | .number n => n.decode.map .number
  | .text t => t.decode.map .string
  | .array elements ending =>
    match depth with
    | inner + 2 => do
      let values ← toValues (inner + 1) elements
      ending.check
      pure (.array values)
    | _ => .error .malformed
  | .object entries ending =>
    match depth with
    | inner + 2 => do
      let fields ← toFields (inner + 1) [] entries
      ending.check
      pure (.object fields)
    | _ => .error .malformed

/-- The values of the elements of an array. -/
def toValues (depth : Nat) : List Node → Except Failure (List Value)
  | [] => .ok []
  | v :: rest => do
    let value ← v.toValue depth
    let values ← toValues depth rest
    pure (value :: values)

/-- The fields of an object, in addition to those that have been read. -/
def toFields (depth : Nat) (fields : List (String × Value)) :
    List (RawText × Node) → Except Failure (List (String × Value))
  | [] => .ok fields
  | (key, v) :: rest => do
    let name ← key.decode
    let value ← v.toValue depth
    toFields depth (Value.insertField name value fields) rest

end

def Decoder.value : Decoder Value := Node.toValue

/-! ## Records -/

/-- A field of a record: `σ` holds what has been read of the record so far. -/
structure RecordField (σ : Type) where
  name : String
  /-- Whether the field may be left out. -/
  isOptional : Bool
  isSet : σ → Bool
  read : Nat → Node → σ → Except Failure σ

structure RecordForm (σ α : Type) where
  /-- The record as messages name it. -/
  expecting : String
  fields : List (RecordField σ)
  /-- What has been read before anything is. -/
  start : σ
  /-- The record, once every field that must be there is. -/
  finish? : σ → Option α

namespace RecordForm

variable {σ α : Type}

/-- The number of the fields, as messages name it. -/
def elementCount (form : RecordForm σ α) : String :=
  match form.fields.length with
  | 1 => "1 element"
  | n => s!"{n} elements"

/-- The record of what has been read, or the first field that is missing. -/
def finish (form : RecordForm σ α) (read : σ) : Except Failure α :=
  match form.fields.find? (fun f => !f.isOptional && !f.isSet read), form.finish? read with
  | some f, _ => .error (.mismatch s!"missing field `{f.name}`")
  | none, some record => .ok record
  | none, none => .error .malformed

def readEntries (form : RecordForm σ α) (depth : Nat) :
    σ → List (RawText × Node) → Except Failure σ
  | read, [] => .ok read
  | read, (key, v) :: rest => do
    let name ← key.decode
    match form.fields.find? (·.name == name) with
    | none =>
      v.skip
      form.readEntries depth read rest
    | some f =>
      if f.isSet read then .error (.mismatch s!"duplicate field `{f.name}`")
      else
        let read ← f.read depth v read
        form.readEntries depth read rest

/-- The end of an array that holds a record: there is nothing after the last field. -/
def checkRest : List Node → ArrayEnd → Except Failure Unit
  | [], .closed => .ok ()
  | [], .ended => .error .ended
  | _, _ => .error .malformed

/-- Reads the elements of an array, one for each field in turn; `index` counts those read. -/
def readElements (form : RecordForm σ α) (depth : Nat) (ending : ArrayEnd) :
    Nat → List (RecordField σ) → σ → List Node → Except Failure σ
  | _, [], read, rest => do
    checkRest rest ending
    pure read
  | index, f :: fields, read, v :: rest => do
    let read ← f.read depth v read
    form.readElements depth ending (index + 1) fields read rest
  | index, f :: fields, read, [] =>
    if ending = .closed then
      if f.isOptional then form.readElements depth ending (index + 1) fields read []
      else
        .error (.mismatch
          s!"invalid length {index}, expected {form.expecting} with {form.elementCount}")
    else do
      ending.check
      pure read

/-- Reads a record, written as an object or as an array of its fields. -/
def decoder (form : RecordForm σ α) : Decoder α := fun depth v =>
  match v with
  | .object entries ending => enter depth fun depth => do
    let read ← form.readEntries depth form.start entries
    ending.check
    form.finish read
  | .array elements ending => enter depth fun depth => do
    let read ← form.readElements depth ending 0 form.fields form.start elements
    form.finish read
  | v => mismatched form.expecting v.describe

end RecordForm

/-! ## Variants -/

inductive Content (α : Type)
  /-- Nothing; the tag may stand alone. -/
  | nothing (value : α)
  /-- One value. -/
  | payload (d : Decoder α)
  /-- A record. -/
  | record (d : Decoder α)

/-- A variant: its tag and what it carries. -/
structure Variant (α : Type) where
  tag : String
  content : Content α

/-- The tags as a message offers them. -/
def offerTags : List String → String
  | [a] => s!"expected `{a}`"
  | [a, b] => s!"expected `{a}` or `{b}`"
  | tags => "expected one of " ++ String.intercalate ", " (tags.map fun t => s!"`{t}`")

def findVariant {α : Type} (variants : List (Variant α)) (tag : String) :
    Except Failure (Variant α) :=
  match variants.find? (·.tag == tag) with
  | some v => .ok v
  | none =>
    .error (.mismatch s!"unknown variant `{tag}`, {offerTags (variants.map (·.tag))}")

/-- A variant whose tag stands alone. -/
def Variant.bare {α : Type} (v : Variant α) : Except Failure α :=
  match v.content with
  | .nothing value => .ok value
  | .payload _ => .error (.mismatch "invalid type: unit variant, expected newtype variant")
  | .record _ => .error (.mismatch "invalid type: unit variant, expected struct variant")

/-- A variant whose tag is the key of an object. -/
def Variant.carrying {α : Type} (v : Variant α) (depth : Nat) (node : Node) : Except Failure α :=
  match v.content with
  | .nothing value => do
    Decoder.unit depth node
    pure value
  | .payload d | .record d => d depth node

/-- The end of an object that holds a variant: there is nothing after its one entry. -/
def ObjectEnd.checkVariant : ObjectEnd → Except Failure Unit
  | .closed => .ok ()
  | .ended => .error .ended
  | .endedAfterComma | .malformed | .oddKey _ => .error .malformed

def Decoder.variant {α : Type} (variants : List (Variant α)) : Decoder α := fun depth v =>
  match v with
  | .text t => do
    let tag ← t.decode
    (← findVariant variants tag).bare
  | .object entries ending => enter depth fun depth =>
    match entries, ending with
    | (key, node) :: rest, ending => do
      let tag ← key.decode
      let value ← (← findVariant variants tag).carrying depth node
      match rest with
      | [] => ending.checkVariant
      | _ :: _ => .error .malformed
      pure value
    | [], .oddKey t => mismatched "variant identifier" t.describe
    | [], .ended => .error .ended
    | [], _ => .error .malformed
  | .fault f => .error f.tagFailure
  | _ => .error .malformed

/-! ## Documents -/

/-- Reads a whole text. -/
def Decoder.run {α : Type} (d : Decoder α) (text : String) : Except Failure α := do
  let document := Document.ofText text
  let value ← d nestingLimit document.root
  if document.surplus then .error .malformed
  pure value

def Value.ofText (text : String) : Except Failure Value := Decoder.value.run text

end ClientGen.Json

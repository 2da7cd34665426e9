import ClientGen.Crate.Formatted
import ClientGen.Protocol.Profile

/-!
# The module of the configuration

It holds a type with the fields that the protocol asks for, their defaults, and a method to set each
of them. Types and defaults of fields are source text, of which the module keeps the tokens.
-/

namespace ClientGen

open Syntax

namespace Config

/-- A field whose type and default have been read. -/
structure Entry where
  name : String
  type : String
  default : String
  docs : String

/-! ## Reading -/

/-- Whether the text has the form of an identifier, which need not be a raw one. -/
def hasNameForm (text : String) : Bool :=
  match text.toList with
  | c :: rest => Unicode.isWordStart c && rest.all Unicode.isWordContinue
  | [] => false

/-- The text of tokens, or the fault if there are none. -/
def tokenText (fault : ConfigFault) : Option (List Token) → Except GenerationError String
  | some ts => .ok (Token.listText ts)
  | none => .error (.config fault)

def entry (f : ConfigField) : Except GenerationError Entry := do
  if !hasNameForm f.name then throw (.config (.fieldName f.name))
  let type ← tokenText (.fieldType f.name) (typeTokens? f.type)
  let default ← tokenText (.fieldDefault f.name) (expressionTokens? f.default)
  pure ⟨f.name, type, default, f.docs⟩

/-! ## Writing -/

def declaration (e : Entry) : String :=
  let docs := Text.sourceLiteral (" " ++ e.docs)
  s!"#[doc = {docs}] pub {e.name}: {e.type},"

def assignment (e : Entry) : String := s!"{e.name}: {e.default},"

def setter (e : Entry) : String :=
  s!"pub fn with_{e.name}(mut self, value: {e.type}) -> Self \x7b"
    ++ s!" self.{e.name} = value; self \x7d"

/-- The lines of the items. All texts start at the margin, as a literal may go over several
lines. -/
def code (entries : List Entry) : List Code :=
  [.doc "Client configuration.", .text "#[derive(Debug, Clone, PartialEq)]",
      .text "pub struct Config \x7b"]
    ++ entries.map (.text ∘ declaration)
    ++ [.text "\x7d", .text "impl Default for Config \x7b fn default() -> Self \x7b Self \x7b"]
    ++ entries.map (.text ∘ assignment)
    ++ [.text "\x7d \x7d \x7d", .text "impl Config \x7b",
      .doc "A configuration with every default.",
      .text "pub fn new() -> Self \x7b Self::default() \x7d"]
    ++ entries.map (.text ∘ setter)
    ++ [.text "\x7d"]

def unit (fields : List ConfigField) : Except GenerationError SourceUnit := do
  let entries ← fields.mapM entry
  (((Writer.new "crate::config").moduleDoc "Client configuration.").emit (code entries)).finalize

def text (fields : List ConfigField) : Except GenerationError String := do
  pure (← (← unit fields).formatted).text

end Config

end ClientGen

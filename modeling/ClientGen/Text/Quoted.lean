import ClientGen.Unicode.Printable

/-!
# Texts as string literals of source code

Quotes and backslashes are escaped, and so is every character that would not show by itself.
-/

namespace ClientGen.Text

open ClientGen.Unicode

/-- The hexadecimal digits of a number, without leading zeros. -/
def hexDigits (n : Nat) : List Char := Nat.toDigits 16 n

def escapeCodePoint (c : Char) : List Char :=
  '\\' :: 'u' :: '\x7b' :: (hexDigits c.toNat ++ ['\x7d'])

def literalChar (c : Char) : List Char :=
  if c = '"' then ['\\', '"']
  else if c = '\\' then ['\\', '\\']
  else if c = '\n' then ['\\', 'n']
  else if c = '\r' then ['\\', 'r']
  else if c = '\t' then ['\\', 't']
  else if c.toNat = 0 then ['\\', '0']
  else if isGraphemeExtend c || !isPrintable c then escapeCodePoint c
  else [c]

/-- The text as a string literal, with its quotes. -/
def literal (text : String) : String :=
  String.ofList ('"' :: (text.toList.flatMap literalChar ++ ['"']))

/-- The characters of a string literal that stands for a token: a null character is written so that
no digit behind it belongs to its escape. -/
def sourceLiteralChars : List Char → List Char
  | [] => []
  | '\x00' :: c :: rest =>
    (if '0' ≤ c && c ≤ '7' then ['\\', 'x', '0', '0'] else ['\\', '0'])
      ++ sourceLiteralChars (c :: rest)
  | c :: rest => literalChar c ++ sourceLiteralChars rest

/-- The text as the string literal of a token. -/
def sourceLiteral (text : String) : String :=
  String.ofList ('"' :: (sourceLiteralChars text.toList ++ ['"']))

example : literal "a\"b\\\n" = "\"a\\\"b\\\\\\n\"" := by decide

end ClientGen.Text

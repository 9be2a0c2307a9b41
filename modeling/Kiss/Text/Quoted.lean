import Kiss.Character.DefaultIgnorable
import Kiss.Character.ExtendingMark
import Kiss.Character.Unprintable

/-!
# Quoted text

How a text is shown between quotes: in token listings, in messages and in the text of a
syntax tree. The quote and the backslash stand behind a backslash, four controls have short
names, and every other character that would not show is written by its number.
-/

namespace Kiss.Text

/-- A character by its number, in hexadecimal digits without padding. -/
def numbered (c : Char) : List Char :=
  ['\\', 'u', '\x7b'] ++ Nat.toDigits 16 c.toNat ++ ['\x7d']

/-- Whether a character would not show as itself between quotes: it has no visible form, or
    it is shown as nothing, or it joins what stands before it. -/
def isHidden (c : Char) : Bool :=
  Character.isUnprintable c || Character.isDefaultIgnorable c || Character.isExtendingMark c

/-- The form of one character between two of the given quotes. -/
def quoteChar (quote c : Char) : List Char :=
  if c = quote ∨ c = '\\' then ['\\', c]
  else if c = '\x00' then ['\\', '0']
  else if c = '\t' then ['\\', 't']
  else if c = '\n' then ['\\', 'n']
  else if c = '\r' then ['\\', 'r']
  else if isHidden c then numbered c
  else [c]

/-- A text in double quotes. -/
def quoted (text : String) : String :=
  String.ofList ('"' :: text.toList.flatMap (quoteChar '"') ++ ['"'])

/-- A single character in single quotes. -/
def quotedChar (c : Char) : String :=
  String.ofList ('\x27' :: quoteChar '\x27' c ++ ['\x27'])

end Kiss.Text

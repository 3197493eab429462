import OpticalTiming.Text.Hex
import OpticalTiming.Text.Printable

/-!
# Quoted text

A text between double quotes, in which every character that would be invisible or ambiguous is
escaped: `quote` shows exactly which names a list holds, also when they hold quotes, line ends or
combining characters.
-/

namespace OpticalTiming.Text

/-- How one character is shown between double quotes: the named escapes first, then the number of
any character without a visible form of its own. -/
def escapeChar (c : Char) : List Char :=
  if c = '\x00' then ['\\', '0']
  else if c = '\t' then ['\\', 't']
  else if c = '\r' then ['\\', 'r']
  else if c = '\n' then ['\\', 'n']
  else if c = '"' then ['\\', '"']
  else if c = '\\' then ['\\', '\\']
  else if isExtending c || isUnprintable c then
    ['\\', 'u', '\x7b'] ++ hexDigits c.toNat ++ ['\x7d']
  else [c]

/-- The text between double quotes, escaped. -/
def quote (s : String) : String :=
  String.ofList ('"' :: s.toList.flatMap escapeChar ++ ['"'])

/-- Quoted texts in square brackets, separated by commas. -/
def quoteList (texts : List String) : String :=
  "[" ++ ", ".intercalate (texts.map quote) ++ "]"

end OpticalTiming.Text

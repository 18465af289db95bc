import RecordQuery.Text.Addenda
import RecordQuery.Text.Property

/-!
# Quoted text

Text between double quotes, with everything escaped that does not show as a character of its own.
-/

namespace RecordQuery.Text

/-- A character that shows: anything but controls, separators other than the space, and unassigned
    or private code points. -/
def isPrintable (c : Char) : Bool :=
  c == ' ' || Category.graphic.contains c || Addenda.shown.contains c

/-- Marks that attach to the character before them, and fillers that leave no trace. -/
def isHidden (c : Char) : Bool :=
  (Property.graphemeExtend.contains c && !Category.modifierLetter.contains c) ||
    Property.defaultIgnorable.contains c

/-- An escape with the code of a character. -/
def codeEscape (c : Char) : List Char :=
  ['\\', 'u', '\x7b'] ++ Nat.toDigits 16 c.toNat ++ ['\x7d']

/-- A character within quotes. -/
def quoteChar (c : Char) : List Char :=
  if c = '\x00' then ['\\', '0']
  else if c = '\t' then ['\\', 't']
  else if c = '\n' then ['\\', 'n']
  else if c = '\r' then ['\\', 'r']
  else if c = '\\' then ['\\', '\\']
  else if c = '"' then ['\\', '"']
  else if 0x20 ≤ c.toNat && c.toNat < 0x7F then [c]
  else if isHidden c || !isPrintable c then codeEscape c
  else [c]

/-- Text between quotes. -/
def quote (s : String) : String :=
  String.ofList ('"' :: s.toList.flatMap quoteChar ++ ['"'])

end RecordQuery.Text

import RecordQuery.Decimal.Style
import RecordQuery.Json

/-!
# Writing JSON

A document as text, without blanks (`Json.compact`) or with one item a line and two blanks for each
level (`Json.pretty`). Empty arrays and objects stay on one line.
-/

namespace RecordQuery.Json

/-- Numbers other than integers have a point or an exponent: an exponent below `10 ^ -5` and from
    `10 ^ 16` on, with its sign. Of two equally near decimals the even one is written. -/
def realStyle : Decimal.Style :=
  { tie := .even, positional := fun e => -5 ≤ e && e < 16, pointZero := true, plusSign := true }

/-- A character of a string. Quotes, backslashes and control characters are escaped. -/
def escapeChar (c : Char) : List Char :=
  if c = '"' then ['\\', '"']
  else if c = '\\' then ['\\', '\\']
  else if c = '\x08' then ['\\', 'b']
  else if c = '\x0C' then ['\\', 'f']
  else if c = '\n' then ['\\', 'n']
  else if c = '\r' then ['\\', 'r']
  else if c = '\t' then ['\\', 't']
  else if c.toNat < 0x20 then
    ['\\', 'u', '0', '0', Nat.digitChar (c.toNat / 16), Nat.digitChar (c.toNat % 16)]
  else [c]

/-- A string between quotes. -/
def quoted (s : String) : String := String.ofList ('"' :: s.toList.flatMap escapeChar ++ ['"'])

/-- A document without parts. -/
def scalar : Json → String
  | null => "null"
  | bool true => "true"
  | bool false => "false"
  | integer n => toString n
  | real x => if x.isFinite then realStyle.render x else "null"
  | string s => quoted s
  | array _ => "[]"
  | object _ => "\x7b\x7d"

mutual

/-- The text of a document without blanks. -/
def compact : Json → String
  | array items => "[" ++ String.intercalate "," (compactItems items) ++ "]"
  | object members => "\x7b" ++ String.intercalate "," (compactMembers members) ++ "\x7d"
  | json => json.scalar

/-- The texts of items. -/
def compactItems : List Json → List String
  | [] => []
  | item :: rest => compact item :: compactItems rest

/-- The texts of members. -/
def compactMembers : List (String × Json) → List String
  | [] => []
  | (key, item) :: rest => (quoted key ++ ":" ++ compact item) :: compactMembers rest

end

/-- The blanks before a line. -/
def indent (level : Nat) : String := String.ofList (List.replicate (2 * level) ' ')

/-- Lines between an opening and a closing mark. -/
def block (level : Nat) (opening : String) (lines : List String) (closing : String) : String :=
  let lines := lines.map (indent (level + 1) ++ ·)
  opening ++ "\n" ++ String.intercalate ",\n" lines ++ "\n" ++ indent level ++ closing

mutual

/-- The text of a document at a level, with one item a line. -/
def prettyAt (level : Nat) : Json → String
  | array (item :: rest) =>
    block level "[" (prettyAt (level + 1) item :: prettyItems (level + 1) rest) "]"
  | object ((key, item) :: rest) =>
    block level "\x7b"
      ((quoted key ++ ": " ++ prettyAt (level + 1) item) :: prettyMembers (level + 1) rest) "\x7d"
  | json => json.scalar

/-- The texts of items. -/
def prettyItems (level : Nat) : List Json → List String
  | [] => []
  | item :: rest => prettyAt level item :: prettyItems level rest

/-- The texts of members. -/
def prettyMembers (level : Nat) : List (String × Json) → List String
  | [] => []
  | (key, item) :: rest =>
    (quoted key ++ ": " ++ prettyAt level item) :: prettyMembers level rest

end

/-- The text of a document with one item a line. -/
def pretty (json : Json) : String := json.prettyAt 0

end RecordQuery.Json

import RecordQuery.Operator

/-!
# Grammars

A grammar says which runs of characters are tokens and what these do. It is a list of descriptors,
in which the last word counts: of several descriptors that accept a first character, or that share
a reserved word, the one registered last is taken.

* `Descriptor`: how one kind of token is recognised, typed and evaluated.
* `Grammar.register`: adds a descriptor, or replaces the one with the same id in its place.
* `Grammar.startingWith?`, `Grammar.reserved?`: the descriptor for a character or a word.
-/

namespace RecordQuery

/-- The class of a token. Several descriptors can share one. -/
inductive TokenKind where
  /-- The name of a property. -/
  | property
  /-- A number. -/
  | number
  /-- A quoted string. -/
  | string
  /-- A named parameter. -/
  | parameter
  /-- A positional parameter. -/
  | wildCard
  /-- An opening parenthesis. -/
  | openParen
  /-- A closing parenthesis. -/
  | closeParen
  /-- A boolean operator. -/
  | boolOp
  /-- A comparator. -/
  | comparator
  /-- A null constant. -/
  | null
  /-- A boolean constant. -/
  | boolVal
  /-- Anything the grammar does not know. -/
  | unknown
deriving DecidableEq

namespace TokenKind

/-- The name of a class in listings. -/
def display : TokenKind → String
  | property => "PROPERTY"
  | number => "NUMBER"
  | string => "STRING"
  | parameter => "PARAMETER"
  | wildCard => "WILD_CARD"
  | openParen => "OPEN_PAREN"
  | closeParen => "CLOSE_PAREN"
  | boolOp => "BOOL_OP"
  | comparator => "COMPARATOR"
  | null => "NULL"
  | boolVal => "BOOL_VAL"
  | unknown => "UNKNOWN"

/-- The name of a class in trees. -/
def label : TokenKind → String
  | property => "Property"
  | number => "Number"
  | string => "String"
  | parameter => "Parameter"
  | wildCard => "WildCard"
  | openParen => "OpenParen"
  | closeParen => "CloseParen"
  | boolOp => "BoolOp"
  | comparator => "Comparator"
  | null => "Null"
  | boolVal => "BoolVal"
  | unknown => "Unknown"

end TokenKind

/-- The type of a token's value, and the type an operator expects of an operand. -/
inductive EvalType where
  /-- A property, literal or parameter. -/
  | primitive
  /-- The outcome of a comparison or a boolean operator. -/
  | boolean
deriving DecidableEq

/-- One of the two operands of a token. -/
inductive Side where
  /-- The operand before the token. -/
  | left
  /-- The operand after the token. -/
  | right
deriving DecidableEq

/-- How one kind of token is recognised, typed and evaluated. -/
structure Descriptor where
  /-- The name under which the descriptor is registered. -/
  id : String := ""
  /-- The class of the tokens. -/
  kind : TokenKind
  /-- The spelling that makes any scanned run such a token. -/
  reservedWord : Option String := none
  /-- The characters that can start a token. -/
  firstChar : Option (Char → Bool) := none
  /-- The characters that end a token. -/
  stopChar : Option (Char → Bool) := none
  /-- The shape that the whole text must have. -/
  format : Option (List Char → Bool) := none
  /-- The text is enclosed. -/
  delimited : Bool := false
  /-- The character that closes enclosed text; without one it is the opening character. -/
  closing : Option Char := none
  /-- A token has one character. -/
  single : Bool := false
  /-- The tokens are numbered in order of appearance. -/
  counted : Bool := false
  /-- The type of the left operand, if there is one. -/
  left : Option EvalType := none
  /-- The type of the right operand, if there is one. -/
  right : Option EvalType := none
  /-- The type of the token's value. -/
  result : Option EvalType := none
  /-- What the token does. -/
  operator : Option Operator := none

namespace Descriptor

/-- A comparator between two primitives, spelled `word`. -/
def comparator (word : String) (operator : Operator) : Descriptor :=
  { kind := .comparator, reservedWord := some word, left := some .primitive
    right := some .primitive, result := some .boolean, operator := some operator }

/-- An operator between two booleans, spelled `word`. -/
def booleanOperator (word : String) (operator : Operator) : Descriptor :=
  { kind := .boolOp, reservedWord := some word, left := some .boolean, right := some .boolean
    result := some .boolean, operator := some operator }

/-- The type of the operand on a side, if there is one. -/
def expected (d : Descriptor) : Side → Option EvalType
  | .left => d.left
  | .right => d.right

/-- Whether `c` can start a token. -/
def startsWith (d : Descriptor) (c : Char) : Bool := d.firstChar.any (· c)

/-- Whether `c` ends a token. Without a rule every character does. -/
def stopsAt (d : Descriptor) (c : Char) : Bool := d.stopChar.all (· c)

/-- Whether a text has the shape of such a token. -/
def acceptsFormat (d : Descriptor) (text : List Char) : Bool := d.format.all (· text)

/-- The descriptor of tokens that no descriptor of a grammar recognises. -/
def unknown : Descriptor := { id := "unknown", kind := .unknown }

end Descriptor

/-- Descriptors in the order in which their ids were first registered. -/
structure Grammar where
  /-- The descriptors. -/
  entries : List Descriptor := []

namespace Grammar

/-- A grammar without descriptors, under which all but white space is unknown. -/
def empty : Grammar := {}

/-- Puts a descriptor in place of the one with its id, or at the end. -/
def place (d : Descriptor) : List Descriptor → List Descriptor
  | [] => [d]
  | e :: rest => if e.id = d.id then d :: rest else e :: place d rest

/-- Registers a descriptor under an id. An id that is registered again keeps its place. -/
def register (g : Grammar) (id : String) (d : Descriptor) : Grammar :=
  ⟨place { d with id := id } g.entries⟩

/-- The descriptor with an id. -/
def get? (g : Grammar) (id : String) : Option Descriptor := g.entries.find? (·.id == id)

/-- The number of descriptors. -/
def size (g : Grammar) : Nat := g.entries.length

/-- The last descriptor that accepts `c` as a first character. -/
def startingWith? (g : Grammar) (c : Char) : Option Descriptor :=
  g.entries.reverse.find? (·.startsWith c)

/-- The last descriptor whose reserved word is `word`. -/
def reserved? (g : Grammar) (word : String) : Option Descriptor :=
  g.entries.reverse.find? (·.reservedWord == some word)

end Grammar

end RecordQuery

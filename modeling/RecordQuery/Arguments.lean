/-!
# Arguments

The words of a command line, told apart into plain words and options.

* An option is written `--name` or, if it has a letter, `-x`; letters can share a dash. Its value,
  if it takes one, is attached (`--name=value`, `-xvalue`, `-x=value`) or is the next word.
* After `--` all words are plain. A dash alone is a plain word.
* `Arguments.read`: the arguments of a command, none if help is asked for.
-/

namespace RecordQuery

/-- An option of a command. -/
structure OptionRule where
  /-- The name. -/
  name : String
  /-- The letter. -/
  letter : Option Char := none
  /-- The option takes a value. -/
  takesValue : Bool := false

/-- Why the words of a command line are not understood. -/
inductive UsageError where
  /-- There is no command. -/
  | noCommand
  /-- There is no such command. -/
  | unknownCommand (word : String)
  /-- There is no such option. -/
  | unknownOption (word : String)
  /-- An option without the value it takes. -/
  | missingValue (name : String)
  /-- A value for an option that takes none. -/
  | needlessValue (name : String)
  /-- An option that is given twice. -/
  | repeated (name : String)
  /-- More plain words than the command takes. -/
  | surplus (word : String)
  /-- Fewer plain words than the command takes. -/
  | missingWord (what : String)

/-- The wording of a usage error. -/
def UsageError.message : UsageError → String
  | noCommand => "a command is required"
  | unknownCommand word => "unknown command: " ++ word
  | unknownOption word => "unknown option: " ++ word
  | missingValue name => "a value is required for --" ++ name
  | needlessValue name => "no value is taken by --" ++ name
  | repeated name => "--" ++ name ++ " is given more than once"
  | surplus word => "unexpected argument: " ++ word
  | missingWord what => "missing argument: " ++ what

/-- Arguments as they were understood. -/
structure Arguments where
  /-- The plain words, in order. -/
  words : List String := []
  /-- The values of the options that were given; an option that takes none has the empty text. -/
  options : List (String × String) := []

namespace Arguments

/-- The value of an option. -/
def value? (a : Arguments) (name : String) : Option String := a.options.lookup name

/-- Whether an option was given. -/
def has (a : Arguments) (name : String) : Bool := (a.value? name).isSome

/-- Adds a plain word, of which there may be `limit`. -/
def addWord (limit : Nat) (a : Arguments) (word : String) : Except UsageError Arguments :=
  if a.words.length < limit then .ok { a with words := a.words ++ [word] }
  else .error (.surplus word)

/-- Adds an option. -/
def addOption (a : Arguments) (rule : OptionRule) (value : String) :
    Except UsageError Arguments :=
  if a.has rule.name then .error (.repeated rule.name)
  else .ok { a with options := (rule.name, value) :: a.options }

end Arguments

/-- The option that asks for help. -/
def OptionRule.help : OptionRule := { name := "help", letter := some 'h' }

/-- What one word leads to. -/
inductive ArgumentStep where
  /-- The arguments so far. -/
  | done (a : Arguments)
  /-- An option whose value is the next word. -/
  | awaits (rule : OptionRule) (a : Arguments)
  /-- Help is asked for. -/
  | help

namespace ArgumentStep

/-- Reads an option that takes no value. -/
def switch (a : Arguments) (rule : OptionRule) : Except UsageError ArgumentStep :=
  if rule.name = OptionRule.help.name then .ok help else (a.addOption rule "").map done

/-- Reads an option that is written with its name. -/
def named (rules : List OptionRule) (a : Arguments) (name : String) (attached : Option String) :
    Except UsageError ArgumentStep :=
  match rules.find? (·.name == name), attached with
  | none, _ => .error (.unknownOption ("--" ++ name))
  | some rule, none => if rule.takesValue then .ok (awaits rule a) else switch a rule
  | some rule, some value =>
    if rule.takesValue then (a.addOption rule value).map done
    else .error (.needlessValue rule.name)

/-- Reads options that are written with their letters. What follows the letter of an option that
    takes a value is its value. -/
def lettered (rules : List OptionRule) (a : Arguments) :
    List Char → Except UsageError ArgumentStep
  | [] => .ok (done a)
  | c :: rest =>
    match rules.find? (·.letter == some c) with
    | none => .error (.unknownOption (String.ofList ['-', c]))
    | some rule =>
      if rule.takesValue then
        match rest with
        | [] => .ok (awaits rule a)
        | '=' :: value => (a.addOption rule (String.ofList value)).map done
        | value => (a.addOption rule (String.ofList value)).map done
      else
        match switch a rule with
        | .ok (done a) => lettered rules a rest
        | other => other

/-- Reads a word. -/
def ofWord (rules : List OptionRule) (limit : Nat) (a : Arguments) (word : String) :
    Except UsageError ArgumentStep :=
  match word.toList with
  | '-' :: '-' :: option =>
    let name := String.ofList (option.takeWhile (· != '='))
    match option.dropWhile (· != '=') with
    | [] => named rules a name none
    | _ :: value => named rules a name (some (String.ofList value))
  | '-' :: c :: letters => lettered rules a (c :: letters)
  | _ => (a.addWord limit word).map done

end ArgumentStep

namespace Arguments

/-- Whether a word can be the value of the option before it. -/
def isValue (word : String) : Bool :=
  match word.toList with
  | '-' :: _ :: _ => false
  | _ => true

/-- Reads words after the arguments `a`, the first of them for the option that awaits a value. -/
def readAfter (rules : List OptionRule) (limit : Nat) (a : Arguments)
    (awaiting : Option OptionRule) : List String → Except UsageError (Option Arguments)
  | [] =>
    match awaiting with
    | some rule => .error (.missingValue rule.name)
    | none => .ok (some a)
  | word :: rest =>
    match awaiting with
    | some rule =>
      if isValue word then
        match a.addOption rule word with
        | .ok a => readAfter rules limit a none rest
        | .error e => .error e
      else .error (.missingValue rule.name)
    | none =>
      if word = "--" then (rest.foldlM (addWord limit) a).map some
      else
        match ArgumentStep.ofWord rules limit a word with
        | .ok (.done a) => readAfter rules limit a none rest
        | .ok (.awaits rule a) => readAfter rules limit a (some rule) rest
        | .ok .help => .ok none
        | .error e => .error e

/-- The arguments of a command with the given options and at most `limit` plain words. -/
def read (rules : List OptionRule) (limit : Nat) (words : List String) :
    Except UsageError (Option Arguments) :=
  readAfter (rules ++ [.help]) limit {} none words

end Arguments

end RecordQuery

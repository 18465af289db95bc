import RecordQuery.Arguments
import RecordQuery.Check
import RecordQuery.Json.Printer

/-!
# The command line

The command `check` runs a condition on a JSON array of objects, and `tokens` lists the tokens of a
condition.

* `Command.parse`: the command that the words of a command line ask for.
* `Command.run`: what a command writes and the code it ends with, given what can be read from its
  standard input.
-/

namespace RecordQuery

/-- What help is about. -/
inductive HelpTopic where
  /-- All commands. -/
  | commands
  /-- The command `check`. -/
  | check
  /-- The command `tokens`. -/
  | tokens

/-- What a command line asks for. -/
inductive Command where
  /-- Runs a condition. -/
  | check (options : CheckOptions)
  /-- Lists the tokens of a condition. -/
  | tokens (conditions : String)
  /-- Explains the command line. -/
  | help (topic : HelpTopic)
  /-- Names the version. -/
  | version

/-- What a command leaves behind. -/
structure Outcome where
  /-- The code of the process: 0 for success, 1 for an error, 2 for a command line that is not
      understood. -/
  code : UInt8 := 0
  /-- What is written to standard output. -/
  output : String := ""
  /-- What is written to standard error. -/
  complaint : String := ""

namespace Outcome

/-- A success with a line of output. -/
def line (text : String) : Outcome := { output := text ++ "\n" }

/-- An error. -/
def failure (message : String) : Outcome := { code := 1, complaint := message ++ "\n" }

/-- A command line that is not understood. -/
def ofUsageError (e : UsageError) : Outcome :=
  { code := 2, complaint := "error: " ++ e.message ++ "\n\nFor more information, try '--help'.\n" }

/-- Standard input that is not text. -/
def unreadable : Outcome := failure "IO error: stream did not contain valid UTF-8"

end Outcome

/-- The explanation of a topic. -/
def HelpTopic.text : HelpTopic → String
  | commands => String.intercalate "\n"
    [ "condql - A condition language for matching and ordering records", "",
      "Usage: condql <COMMAND>", "", "Commands:",
      "  check   Filter and sort JSON records with a condition",
      "  tokens  Print the tokens of a condition",
      "  help    Print this message or the help of the given command", "", "Options:",
      "  -h, --help     Print help", "  -V, --version  Print version", "" ]
  | check => String.intercalate "\n"
    [ "Filter and sort JSON records with a condition", "",
      "Usage: condql check [OPTIONS] <CONDITIONS>", "", "Arguments:",
      "  <CONDITIONS>  The condition, e.g. \"firstName = 'Jonny' AND year > 1960\"", "",
      "Options:", "  -o, --order <ORDER>    Ordering clause, e.g. \"lastName, year DESC\"",
      "  -i, --input <INPUT>    JSON array of records (reads from stdin if not provided)",
      "      --params <PARAMS>  JSON parameters: an array for %@, an object for \x7bname\x7d",
      "  -p, --pretty           Pretty-print the output",
      "      --syntax-only      Only compile the condition, don't run it",
      "  -h, --help             Print help", "" ]
  | tokens => String.intercalate "\n"
    [ "Print the tokens of a condition", "", "Usage: condql tokens <CONDITIONS>", "",
      "Arguments:", "  <CONDITIONS>  The condition to tokenize", "", "Options:",
      "  -h, --help  Print help", "" ]

namespace Command

/-- The options of the command `check`. -/
def checkRules : List OptionRule :=
  [ { name := "order", letter := some 'o', takesValue := true },
    { name := "input", letter := some 'i', takesValue := true },
    { name := "params", takesValue := true },
    { name := "pretty", letter := some 'p' },
    { name := "syntax-only" } ]

/-- The command `check` with its arguments. -/
def checkOf (a : Arguments) : Except UsageError Command :=
  match a.words with
  | conditions :: _ =>
    .ok (check
      { conditions := conditions, clause := a.value? "order", input := a.value? "input"
        params := a.value? "params", pretty := a.has "pretty"
        compileOnly := a.has "syntax-only" })
  | [] => .error (.missingWord "<CONDITIONS>")

/-- The command `tokens` with its arguments. -/
def tokensOf (a : Arguments) : Except UsageError Command :=
  match a.words with
  | conditions :: _ => .ok (tokens conditions)
  | [] => .error (.missingWord "<CONDITIONS>")

/-- Reads the arguments of a command that takes one plain word. -/
def withArguments (rules : List OptionRule) (topic : HelpTopic)
    (build : Arguments → Except UsageError Command) (words : List String) :
    Except UsageError Command :=
  match Arguments.read rules 1 words with
  | .error e => .error e
  | .ok none => .ok (help topic)
  | .ok (some a) => build a

/-- The command `help` with the command it is about. -/
def helpOf : List String → Except UsageError Command
  | [] | ["help"] => .ok (help .commands)
  | ["check"] => .ok (help .check)
  | ["tokens"] => .ok (help .tokens)
  | word :: _ => .error (.unknownCommand word)

/-- What a word in place of a command asks for. -/
def ofOption (word : String) : Except UsageError Command :=
  if word = "--help" then .ok (help .commands)
  else if word = "--version" then .ok version
  else
    match word.toList with
    | '-' :: 'h' :: _ => .ok (help .commands)
    | '-' :: 'V' :: _ => .ok version
    | '-' :: _ => .error (.unknownOption word)
    | _ => .error (.unknownCommand word)

/-- The command that the words of a command line ask for. -/
def parse : List String → Except UsageError Command
  | [] => .error .noCommand
  | "check" :: rest => withArguments checkRules .check checkOf rest
  | "tokens" :: rest => withArguments [] .tokens tokensOf rest
  | "help" :: rest => helpOf rest
  | word :: _ => ofOption word

/-- Whether a command reads its standard input. -/
def readsInput : Command → Bool
  | check options => options.input.isNone && !options.compileOnly
  | _ => false

/-- A token as a line of the list. -/
def tokenLine (t : Token) : String := t.kind.display ++ "\t" ++ t.literal.display ++ "\n"

/-- The outcome of a check. -/
def runCheck (options : CheckOptions) (env : Environment) : Outcome :=
  match options.check env with
  | .error e => .failure e.message
  | .ok .valid => .line "Syntax is valid"
  | .ok (.output json) => .line (if options.pretty then json.pretty else json.compact)

/-- Runs a command. `piped` is what its standard input holds, if it is no terminal. -/
def run (command : Command) (env : Environment) (piped : Option String) : Outcome :=
  match command with
  | check options => runCheck { options with input := options.input <|> piped } env
  | tokens conditions =>
    { output := String.join ((env.grammar.tokenize conditions).map tokenLine) }
  | help topic => { output := topic.text }
  | version => .line "condql 0.1.0"

end Command

/-- The outcome of a command line. -/
def Outcome.ofWords (words : List String) (piped : Option String) : Outcome :=
  match Command.parse words with
  | .error e => ofUsageError e
  | .ok command => command.run {} piped

end RecordQuery

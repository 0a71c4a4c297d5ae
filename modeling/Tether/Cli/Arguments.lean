import Tether.Cli.Command
import Tether.Text.Split

namespace Tether

/-! # Arguments of the command line

The arguments are read from left to right, and the first one that does not fit ends the reading. `--url` and
`--config` may stand before the command and behind it, and count once on each side; a value never begins with
a dash unless it stands behind an equals sign. Behind `--` nothing is an option.
-/

/-- What the arguments ask for. -/
structure Invocation where
  url : Option String
  config : Option String
  command : CliCommand
deriving DecidableEq, Repr

/-- Why the arguments ask for no command. -/
inductive ArgumentStop where
  | version
  | help
  | misuse
deriving DecidableEq, Repr

/-- An argument by its shape. -/
inductive ArgumentToken where
  | escape
  | long (name : String) (value : Option String)
  | short (letters : List Char)
  | word (text : String)

/-- The shape of an argument; a lone dash is a word. -/
def ArgumentToken.ofText (s : String) : ArgumentToken :=
  match s.toList with
  | ['-', '-'] => .escape
  | '-' :: '-' :: name =>
    match Split.atFirst? '=' name with
    | some (name, value) => .long (String.ofList name) (some (String.ofList value))
    | none => .long (String.ofList name) none
  | '-' :: letter :: letters => .short (letter :: letters)
  | _ => .word s

/-- The names of commands. -/
inductive CommandName where
  | fingerprint
  | ping
  | get
  | set
  | del
  | fanout
deriving DecidableEq, Repr

namespace CommandName

/-- The command of a name. -/
def ofText? (s : String) : Option CommandName :=
  [("fingerprint", CommandName.fingerprint), ("ping", .ping), ("get", .get), ("set", .set), ("del", .del),
    ("fanout", .fanout)].lookup s

/-- The options that only this command has. -/
def options : CommandName → List String
  | .set => ["ttl"]
  | .fanout => ["clients", "key"]
  | _ => []

/-- The words that a command takes at most, if there is a limit. -/
def wordLimit : CommandName → Option Nat
  | .get => some 1
  | .set => some 2
  | .del => none
  | _ => some 0

end CommandName

/-- The arguments on one side of the command. -/
structure ArgumentSide where
  options : List (String × String) := []
  words : List String := []

namespace ArgumentSide

/-- The value of an option. -/
def option? (side : ArgumentSide) (name : String) : Option String := side.options.lookup name

/-- The options that may stand on both sides. -/
def sharedOptions : List String := ["url", "config"]

/-- The highest number that a command line can name. -/
def numberLimit : Nat := UInt64.size - 1

/-- The value fits the option: a path is not empty, and a number is one. -/
def fits (name value : String) : Bool :=
  if name = "config" then value ≠ ""
  else if name = "ttl" || name = "clients" then (Decimal.natural? numberLimit value.toList).isSome
  else true

/-- Sets an option that was not set before. -/
def set (side : ArgumentSide) (name value : String) : Except ArgumentStop ArgumentSide :=
  if (side.option? name).isNone && fits name value then
    .ok { side with options := side.options ++ [(name, value)] }
  else .error .misuse

/-- Adds a word, unless there are as many as there may be. -/
def addWord (side : ArgumentSide) (limit : Option Nat) (word : String) : Except ArgumentStop ArgumentSide :=
  if limit.all (side.words.length < ·) then .ok { side with words := side.words ++ [word] } else .error .misuse

/-- Reads the arguments behind a command. -/
def readBehind (command : CommandName) (side : ArgumentSide) : List String → Except ArgumentStop ArgumentSide
  | [] => .ok side
  | argument :: rest =>
    match ArgumentToken.ofText argument, rest with
    | .escape, rest => rest.foldlM (fun side word => side.addWord command.wordLimit word) side
    | .word word, rest =>
      match side.addWord command.wordLimit word with
      | .error stop => .error stop
      | .ok side => readBehind command side rest
    | .short letters, _ => .error (if letters.head? = some 'h' then .help else .misuse)
    | .long "help" none, _ => .error .help
    | .long name (some value), rest =>
      if (sharedOptions ++ command.options).contains name then
        match side.set name value with
        | .error stop => .error stop
        | .ok side => readBehind command side rest
      else .error .misuse
    | .long name none, value :: rest =>
      match ArgumentToken.ofText value with
      | .word value =>
        if (sharedOptions ++ command.options).contains name then
          match side.set name value with
          | .error stop => .error stop
          | .ok side => readBehind command side rest
        else .error .misuse
      | _ => .error .misuse
    | .long _ none, [] => .error .misuse

/-- Reads the arguments before the command, which ends them. -/
def readBefore (side : ArgumentSide) : List String → Except ArgumentStop (ArgumentSide × CommandName × List String)
  | [] => .error .misuse
  | argument :: rest =>
    match ArgumentToken.ofText argument, rest with
    | .escape, _ => .error .misuse
    | .word "help", _ => .error .help
    | .word word, rest =>
      match CommandName.ofText? word with
      | some command => .ok (side, command, rest)
      | none => .error .misuse
    | .short letters, _ =>
      .error (if letters.head? = some 'h' then .help else if letters.head? = some 'V' then .version else .misuse)
    | .long "help" none, _ => .error .help
    | .long "version" none, _ => .error .version
    | .long name (some value), rest =>
      if sharedOptions.contains name then
        match side.set name value with
        | .error stop => .error stop
        | .ok side => readBefore side rest
      else .error .misuse
    | .long name none, value :: rest =>
      match ArgumentToken.ofText value with
      | .word value =>
        if sharedOptions.contains name then
          match side.set name value with
          | .error stop => .error stop
          | .ok side => readBefore side rest
        else .error .misuse
      | _ => .error .misuse
    | .long _ none, [] => .error .misuse

/-- The number that an option names. -/
def number? (side : ArgumentSide) (name : String) : Option Nat :=
  (side.option? name).bind fun value => Decimal.natural? numberLimit value.toList

/-- The command with what it needs, if all of that is there. -/
def command? (side : ArgumentSide) : CommandName → Option CliCommand
  | .fingerprint => some .fingerprint
  | .ping => some .ping
  | .get => side.words.head?.map CliCommand.get
  | .set =>
    match side.words with
    | [key, value] => some (.set key value ((side.number? "ttl").map UInt64.ofNat))
    | _ => none
  | .del => if side.words.isEmpty then none else some (.del side.words)
  | .fanout => (side.option? "key").map fun key => .fanout ((side.number? "clients").getD 10) key

end ArgumentSide

/-- Reads the arguments of the command line. What stands behind the command wins. -/
def Invocation.ofArguments (arguments : List String) : Except ArgumentStop Invocation := do
  let (before, name, rest) ← ArgumentSide.readBefore {} arguments
  let behind ← ArgumentSide.readBehind name {} rest
  match behind.command? name with
  | none => .error .misuse
  | some command =>
    .ok ⟨(behind.option? "url").or (before.option? "url"),
      (behind.option? "config").or (before.option? "config"), command⟩

end Tether

import Tether.Cli.Arguments

namespace Tether

/-! # Running the command line

The argument for clients comes from a configuration file if one is named, else from a URL, and else it is the store
on this machine. What a run prints and how it exits is a value; files and the environment are given to it.
-/

/-- How a run ends. -/
structure Exit where
  code : Nat
  stdout : String := ""
  stderr : String := ""
deriving DecidableEq, Repr

/-- What a run can see of its surroundings. -/
structure Surroundings where
  /-- The content of the file at a path, if there is one. -/
  file : String → Option Bytes
  /-- The URL that the environment sets. -/
  url : Option String := none

namespace Cli

/-- The store on this machine. -/
def defaultUrl : String := "redis://127.0.0.1:6379"

/-- The variable of the environment that sets the URL. -/
def urlVariable : String := "KVLINK_URL"

/-- The name by which the program is called. -/
def programName : String := "kvlink"

/-- The name of the program and its version. -/
def version : String := programName ++ " 0.1.0\n"

/-- How to call the program. -/
def usage : String :=
  "Usage: " ++ programName ++ " [--url <URL>] [--config <CONFIG>] <COMMAND>\n\n" ++
    "Commands: fingerprint, ping, get <KEY>, set <KEY> <VALUE> [--ttl <TTL>], del <KEYS>...,\n" ++
    "          fanout [--clients <CLIENTS>] --key <KEY>\n"

/-- The argument for clients. -/
def argument (s : Surroundings) (i : Invocation) : Except CliFailure Json :=
  match i.config with
  | some path =>
    match Config.load (s.file path) with
    | .error fault => .error (.configFile path fault)
    | .ok c =>
      match c.argument with
      | .error fault => .error (.config fault)
      | .ok argument => .ok argument
  | none => .ok (.string ((i.url.or s.url).getD defaultUrl))

/-- The exit for a failure. -/
def failed (f : CliFailure) : Exit :=
  let cause := match f.cause with
    | none => ""
    | some cause => "\nCaused by:\n    " ++ cause ++ "\n"
  { code := 1, stderr := "Error: " ++ f.message ++ "\n" ++ cause }

/-- The exit where the arguments ask for no command. -/
def stopped : ArgumentStop → Exit
  | .version => { code := 0, stdout := version }
  | .help => { code := 0, stdout := usage }
  | .misuse => { code := 2, stderr := usage }

/-- The exit for the end of a command; there is none for one that waits. -/
def exit? : CliOutcome → Option Exit
  | .finished (.ok text) => some { code := 0, stdout := text }
  | .finished (.error f) => some (failed f)
  | .waiting => none

variable {H σ : Type}

/-- Runs the program in a world. -/
def run (kind : HandleKind H σ) (s : Surroundings) (arguments : List String) (w : σ) : Option Exit × σ :=
  match Invocation.ofArguments arguments with
  | .error stop => (some (stopped stop), w)
  | .ok i =>
    match argument s i with
    | .error f => (some (failed f), w)
    | .ok argument =>
      let ran := i.command.run kind argument {} w
      (exit? ran.outcome, ran.world)

end Cli

end Tether

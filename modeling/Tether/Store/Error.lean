import Tether.Duration
import Tether.Store.ReplyText

namespace Tether

/-! # What can go wrong with a command

A command fails by an answer of the store, by an answer that is not of the type asked for, by a fault of the
connection, or because it took too long. Each cause has its kind and its message.
-/

/-- The kinds of failures. -/
inductive ErrorKind where
  | responseError
  | parseError
  | authenticationFailed
  | typeError
  | execAbortError
  | busyLoadingError
  | noScriptError
  | moved
  | ask
  | tryAgain
  | clusterDown
  | crossSlot
  | masterDown
  | ioError
  | extensionError
  | readOnly
  | masterNameNotFoundBySentinel
  | notBusy
deriving DecidableEq, Repr

/-- The name of a kind. -/
def ErrorKind.name : ErrorKind → String
  | .responseError => "ResponseError"
  | .parseError => "ParseError"
  | .authenticationFailed => "AuthenticationFailed"
  | .typeError => "TypeError"
  | .execAbortError => "ExecAbortError"
  | .busyLoadingError => "BusyLoadingError"
  | .noScriptError => "NoScriptError"
  | .moved => "Moved"
  | .ask => "Ask"
  | .tryAgain => "TryAgain"
  | .clusterDown => "ClusterDown"
  | .crossSlot => "CrossSlot"
  | .masterDown => "MasterDown"
  | .ioError => "IoError"
  | .extensionError => "ExtensionError"
  | .readOnly => "ReadOnly"
  | .masterNameNotFoundBySentinel => "MasterNameNotFoundBySentinel"
  | .notBusy => "NotBusy"

/-- The codes of the store's errors that have a kind of their own. -/
def ServerError.knownKinds : List (String × ErrorKind) :=
  [("ERR", .responseError), ("EXECABORT", .execAbortError), ("LOADING", .busyLoadingError),
    ("NOSCRIPT", .noScriptError), ("MOVED", .moved), ("ASK", .ask), ("TRYAGAIN", .tryAgain),
    ("CLUSTERDOWN", .clusterDown), ("CROSSSLOT", .crossSlot), ("MASTERDOWN", .masterDown),
    ("READONLY", .readOnly), ("NOTBUSY", .notBusy)]

/-- What a reply was to be converted to. -/
inductive Misconversion where
  /-- Neither a number nor a text that spells one. -/
  | notNumeric
  /-- A text that spells no number. -/
  | notNumber
  | notText
  | notFlag
  /-- A status text other than `0` and `1`. -/
  | notFlagStatus
  | notList
  | notTable
deriving DecidableEq, Repr

/-- The words for a conversion that failed. -/
def Misconversion.words : Misconversion → String
  | .notNumeric => "Response type not convertible to numeric."
  | .notNumber => "Could not convert from string."
  | .notText => "Response type not string compatible."
  | .notFlag => "Response type not bool compatible."
  | .notFlagStatus => "Response status not valid boolean"
  | .notList => "Response type not vector compatible."
  | .notTable => "Response type not map compatible"

/-- Why a command failed. -/
inductive StoreError where
  /-- The store answered an error. -/
  | answered (e : ServerError)
  /-- The reply is of another type. -/
  | misfit (cause : Misconversion) (found : Reply)
  /-- The reply is to be a text and is not UTF-8. -/
  | undecodableText
  /-- The reply is to spell a number and is not UTF-8. -/
  | undecodableNumber
  /-- The reply does not follow the protocol. -/
  | malformed (detail : String)
  /-- The store did not accept the password. -/
  | refusedPassword
  /-- The store did not select the database. -/
  | refusedDatabase
  /-- No sentinel knows a usable master of the name. -/
  | noMaster
  /-- No node of a cluster could be reached. -/
  | noSeed
  /-- Nobody accepts connections at the address. -/
  | refusedConnection
  /-- The other side closed the connection. -/
  | lostConnection
  /-- The connection failed. -/
  | connection (text : String)
  /-- The connection could not be opened again. -/
  | notReopened (text : String)
deriving Inhabited

/-- The text of an error and its kind. -/
def StoreError.described (text : String) (kind : ErrorKind) : String := text ++ "- " ++ kind.name

/-- The text of an error, its kind and a detail. -/
def StoreError.detailed (text : String) (kind : ErrorKind) (detail : String) : String :=
  text ++ " - " ++ kind.name ++ ": " ++ detail

namespace ServerError

/-- The kind of an error that the store answers. -/
def kind (e : ServerError) : ErrorKind := (knownKinds.lookup e.code).getD .extensionError

/-- The message for an error that the store answers. -/
def message (e : ServerError) : String :=
  match knownKinds.lookup e.code, e.detail with
  | some kind, some detail => StoreError.detailed "An error was signalled by the server" kind detail
  | some kind, none => StoreError.described "An error was signalled by the server" kind
  | none, detail => e.code ++ ": " ++ detail.getD "Unknown extension error encountered"

end ServerError

namespace StoreError

/-- The kind of a failure. -/
def kind : StoreError → ErrorKind
  | .answered e => e.kind
  | .misfit .. => .typeError
  | .undecodableText => .typeError
  | .undecodableNumber => .typeError
  | .malformed _ => .parseError
  | .refusedPassword => .authenticationFailed
  | .refusedDatabase => .responseError
  | .noMaster => .masterNameNotFoundBySentinel
  | .noSeed => .ioError
  | .refusedConnection => .ioError
  | .lostConnection => .ioError
  | .connection _ => .ioError
  | .notReopened _ => .ioError

/-- The message for a failure. -/
def message : StoreError → String
  | .answered e => e.message
  | .misfit cause found =>
    detailed "Response was of incompatible type" .typeError
      (quoted cause.words ++ " (response was " ++ found.text ++ ")")
  | .undecodableText => described "Cannot convert from UTF-8" .typeError
  | .undecodableNumber => described "Invalid UTF-8" .typeError
  | .malformed detail => detailed "parse error" .parseError detail
  | .refusedPassword => described "Password authentication failed" .authenticationFailed
  | .refusedDatabase => described "Redis server refused to switch database" .responseError
  | .noMaster => described "Master with given name not found in sentinel" .masterNameNotFoundBySentinel
  | .noSeed => described "Failed to create initial connections" .ioError
  | .refusedConnection => "Connection refused (os error 111)"
  | .lostConnection => "broken pipe"
  | .connection text => described text .ioError
  | .notReopened text => "Reconnecting failed: " ++ text

/-- The connection that the command ran on is gone. -/
def isDisconnect (e : StoreError) : Bool := e.kind = .ioError

/-- The connection is of no use any more. -/
def spoilsConnection (e : StoreError) : Bool :=
  [ErrorKind.ioError, .parseError, .authenticationFailed].contains e.kind

/-- A failure to open a connection again, as it is told to the commands that wait for the connection. -/
def reopening : StoreError → StoreError
  | .refusedConnection => .notReopened (message .refusedConnection)
  | .lostConnection => .notReopened (message .lostConnection)
  | e => e

/-- The store will accept the command later. -/
def isPassing (e : StoreError) : Bool :=
  [ErrorKind.tryAgain, .masterDown, .clusterDown, .busyLoadingError].contains e.kind

end StoreError

/-- Why an operation of a client failed. -/
inductive OperationError where
  | store (e : StoreError)
  /-- The operation did not end within its limit. -/
  | timeout (limit : Duration)
deriving Inhabited

/-- The message for a failed operation. -/
def OperationError.message : OperationError → String
  | .store e => "redis error: " ++ e.message
  | .timeout limit => "operation timed out after " ++ limit.text

end Tether

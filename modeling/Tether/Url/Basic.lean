import Tether.Url.Ipv6
import Tether.Url.Path
import Tether.Url.Percent

namespace Tether

/-! # URLs

A URL is taken apart into scheme, authority, path, query and fragment, as any scheme without rules of its own
is: blanks around the text and line breaks anywhere in it do not count, the host keeps its case, and a host
in brackets is an IPv6 address. `Url.ofText?` refuses what is no such URL.
-/

/-- The host of a URL. -/
inductive UrlHost where
  | name (text : String)
  | ipv6 (address : Ipv6)
deriving DecidableEq, Repr

/-- The parts of a URL. Credentials and query are as they stand in the text. -/
structure Url where
  scheme : String
  username : List Char
  password : Option (List Char)
  host : Option UrlHost
  port : Option UInt16
  path : List Char
  query : Option (List Char)
  fragment : Option (List Char)
deriving DecidableEq, Repr

/-- The text of a host, without brackets. -/
def UrlHost.text : UrlHost → String
  | .name text => text
  | .ipv6 address => address.text

namespace Url

/-- Blanks and control characters do not count at either end of a URL. -/
def isMargin (c : Char) : Bool := c.toNat ≤ 0x20

/-- Line breaks and tabs do not count anywhere in a URL. -/
def isIgnored (c : Char) : Bool := c = '\t' || c = '\n' || c = '\r'

/-- The characters of a URL that count. -/
def clean (cs : List Char) : List Char :=
  (((cs.dropWhile isMargin).reverse.dropWhile isMargin).reverse).filter (!isIgnored ·)

/-- The characters of a scheme after its first letter. -/
def isSchemeChar (c : Char) : Bool := c.isAlphanum || c = '+' || c = '-' || c = '.'

/-- Takes the scheme and its colon off, in lower case. -/
def takeScheme? (cs : List Char) : Option (String × List Char) :=
  match cs with
  | [] => none
  | c :: _ =>
    if !c.isAlpha then none
    else
      match cs.dropWhile isSchemeChar with
      | ':' :: rest => some (String.ofList ((cs.takeWhile isSchemeChar).map Char.toLower), rest)
      | _ => none

/-- A character at which path, query or fragment begins. -/
def endsAuthority (c : Char) : Bool := c = '/' || c = '?' || c = '#'

/-- The host of an authority, up to the first colon outside brackets, and what follows it. -/
def spanHost (bracketed : Bool) : List Char → List Char × List Char
  | [] => ([], [])
  | c :: r =>
    if c = ':' ∧ !bracketed then ([], c :: r)
    else
      let (host, rest) := spanHost (if c = '[' then true else if c = ']' then false else bracketed) r
      (c :: host, rest)

/-- Characters that no host holds. -/
def forbiddenInHost : List Char :=
  ['\x00', '\t', '\n', '\r', ' ', '#', '/', ':', '<', '>', '?', '@', '[', '\\', ']', '^', '|']

/-- The host that a text spells; an empty one is no host. -/
def host? (cs : List Char) : Option (Option UrlHost) :=
  match cs with
  | [] => some none
  | '[' :: r =>
    if r.getLast? = some ']' then (Ipv6.ofChars? r.dropLast).map fun a => some (.ipv6 a) else none
  | _ =>
    if cs.any forbiddenInHost.contains then none
    else some (some (.name (String.ofList (cs.flatMap Percent.encodeControl))))

/-- The port behind a host and the beginning of a path that may follow it directly. -/
def port? : List Char → Option (Option UInt16 × List Char)
  | ':' :: cs =>
    let digits := cs.takeWhile Char.isDigit
    let rest := cs.dropWhile Char.isDigit
    if rest.head?.any (· != '\\') then none
    else if digits.isEmpty then some (none, rest)
    else (Decimal.natural? 65535 digits).map fun n => (some (UInt16.ofNat n), rest)
  | cs => some (none, cs)

/-- User name and password before the `@` of an authority; an empty password is none. -/
def credentials (info : List Char) : List Char × Option (List Char) :=
  match Split.atFirst? ':' info with
  | none => (info, none)
  | some (name, password) => (name, if password.isEmpty then none else some password)

/-- Takes a fragment off the end. -/
def takeFragment (cs : List Char) : List Char × Option (List Char) :=
  match Split.atFirst? '#' cs with
  | none => (cs, none)
  | some (before, fragment) => (before, some fragment)

/-- Takes a query off the end of what stands before the fragment. -/
def takeQuery (cs : List Char) : List Char × Option (List Char) :=
  match Split.atFirst? '?' cs with
  | none => (cs, none)
  | some (before, query) => (before, some query)

/-- The path that begins behind an authority. -/
def pathAfterAuthority : List Char → List Char
  | [] => []
  | '/' :: r => UrlPath.ofChars r
  | cs => UrlPath.ofChars cs

/-- The path of a URL without authority; one that does not begin with a slash is kept as it is. -/
def pathAlone : List Char → List Char
  | '/' :: r => UrlPath.ofChars r
  | cs => cs

/-- Reads what follows the scheme and two slashes. -/
def withAuthority? (scheme : String) (cs : List Char) : Option Url := do
  let authority := cs.takeWhile (!endsAuthority ·)
  let tail := cs.dropWhile (!endsAuthority ·)
  let (info, node) := (Split.atLast? '@' authority).getD ([], authority)
  if (Split.atLast? '@' authority).isSome ∧ info.isEmpty ∧ node.isEmpty ∧ !tail.isEmpty then none
  let (username, password) := credentials info
  let (hostText, afterHost) := spanHost false node
  let host ← host? hostText
  if host.isNone ∧ (!afterHost.isEmpty ∨ !username.isEmpty ∨ password.isSome) then none
  let (port, pathStart) ← port? afterHost
  let (beforeFragment, fragment) := takeFragment (pathStart ++ tail)
  let (path, query) := takeQuery beforeFragment
  pure ⟨scheme, username, password, host, port, pathAfterAuthority path, query, fragment⟩

/-- Reads what follows the scheme where there is no authority. -/
def withoutAuthority (scheme : String) (cs : List Char) : Url :=
  let (beforeFragment, fragment) := takeFragment cs
  let (path, query) := takeQuery beforeFragment
  ⟨scheme, [], none, none, none, pathAlone path, query, fragment⟩

/-- The URL that a text spells. -/
def ofText? (text : String) : Option Url := do
  let (scheme, rest) ← takeScheme? (clean text.toList)
  match rest with
  | '/' :: '/' :: cs => withAuthority? scheme cs
  | cs => pure (withoutAuthority scheme cs)

/-- The last value given for a name in the query. -/
def parameter? (u : Url) (name : String) : Option String :=
  let pairs := (Split.parts '&' (u.query.getD [])).filter (!·.isEmpty)
  let named := pairs.filterMap fun pair =>
    let (key, value) := (Split.atFirst? '=' pair).getD (pair, [])
    if Percent.formText key = name then some (Percent.formText value) else none
  named.getLast?

end Url

end Tether

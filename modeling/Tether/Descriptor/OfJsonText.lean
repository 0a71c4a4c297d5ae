import Tether.Descriptor.Spec
import Tether.Json.Tree

namespace Tether

/-! # Connection options from JSON text

Options are read off their JSON text without a tree in between: an object whose members may come in any
order, each once, or an array of all fields in their order. The fault is the first one that the text shows.
-/

namespace Json

/-- Refuses a value of another type that begins with `c`. A word, number or string is read to its end, and a
fault in it comes first. -/
def refuse {α : Type} (c : Char) : Reader α := fun rest =>
  let scanned : Except Fault Unit :=
    match c with
    | 'n' => discard (readWord "ull".toList rest)
    | 't' => discard (readWord "rue".toList rest)
    | 'f' => discard (readWord "alse".toList rest)
    | '-' => discard (readNumber true rest)
    | '"' => discard (readString rest)
    | '[' => .ok ()
    | '\x7b' => .ok ()
    | _ => if c.isDigit then discard (readNumber false (c :: rest)) else .error .malformed
  match scanned with
  | .error fault => .error fault
  | .ok () => .error .misfit

/-- Reads a text. -/
def readText : Reader String := do
  let c ← nextChar
  if c = '"' then (readString ·) else refuse c

/-- Reads a truth value. -/
def readFlag : Reader Bool := do
  let c ← nextChar
  if c = 't' then fun cs => do .ok (true, ← readWord "rue".toList cs)
  else if c = 'f' then fun cs => do .ok (false, ← readWord "alse".toList cs)
  else refuse c

/-- Reads a number. -/
def readJsonNumber : Reader JsonNumber := do
  let c ← nextChar
  if c = '-' then (readNumber true ·)
  else if c.isDigit then fun cs => readNumber false (c :: cs)
  else refuse c

/-- Reads a whole number of the signed 64-bit range. -/
def readInt64 : Reader Int64 := do
  match ← readJsonNumber with
  | .int i =>
    if Int64.minValue.toInt ≤ i ∧ i ≤ Int64.maxValue.toInt then pure (Int64.ofInt i) else throw .misfit
  | .real _ => throw .misfit

/-- Reads a whole number of the unsigned 64-bit range. -/
def readUInt64 : Reader UInt64 := do
  match ← readJsonNumber with
  | .int i => if 0 ≤ i ∧ i.toNat < UInt64.size then pure (UInt64.ofNat i.toNat) else throw .misfit
  | .real _ => throw .misfit

/-- Reads a list of texts. -/
def readTexts : Reader (List String) := do
  let c ← nextChar
  if c = '[' then readList ']' readText else refuse c

/-- Reads `null` as none. -/
def readOptional {α : Type} (read : Reader α) : Reader (Option α) := fun cs =>
  match skipBlanks cs with
  | 'n' :: rest => do .ok (none, ← readWord "ull".toList rest)
  | cs => (some <$> read) cs

/-- Reads a member's key and its colon; a key for which `use` gives nothing is refused. -/
def readField {α : Type} (use : String → Option α) : Reader α := do
  let key ← (readKey ·)
  match use key with
  | none => throw .misfit
  | some a =>
    fun cs => do .ok (a, ← readColon cs)

/-- Reads an array whose items are read one after another by `steps`, from behind its opening bracket, and
tells how many items were missing. -/
def readTuple {σ : Type} (first : Bool) (state : σ) : List (σ → Reader σ) → Reader (σ × Nat)
  | [] => do
    if (← nextChar) = ']' then pure (state, 0) else throw .malformed
  | step :: steps => do
    let c ← nextChar
    if c = ']' then pure (state, steps.length + 1)
    else if first then
      modify (c :: ·)
      readTuple false (← step state) steps
    else if c = ',' then
      let d ← nextChar
      if d = ']' then throw .malformed
      modify (d :: ·)
      readTuple false (← step state) steps
    else throw .malformed

/-- Reads the one setting of a cluster, which must not be among those seen. -/
def readClusterField (flags : List Bool) : Reader (List Bool) := do
  readField fun key => if key = "readFromReplicas" ∧ flags.isEmpty then some () else none
  return [← readFlag]

/-- Reads the settings of a cluster: an object, or an array of at most the field's value. -/
def readCluster : Reader ClusterOptions := do
  let c ← nextChar
  if c = '[' then
    let (options, _) ← readTuple true {} [fun _ => ClusterOptions.mk <$> readFlag]
    pure options
  else if c = '\x7b' then
    let flags ← readSequence '\x7d' readClusterField []
    pure ⟨flags.headD false⟩
  else refuse c

/-- The value that begins here as each of the types that fields have. -/
def textReaders : FieldReaders Reader where
  texts := readTexts
  flag := readFlag
  text? := readOptional readText
  int64? := readOptional readInt64
  uint64? := readOptional readUInt64
  cluster? := readOptional readCluster

end Json

namespace ConnectionSpec

open Json in
/-- Reads one member of an object of options, whose field must not be among those seen. -/
def readMember (state : ConnectionSpec × List SpecField) : Reader (ConnectionSpec × List SpecField) := do
  let field ← readField fun key => (SpecField.ofName? key).filter (!state.2.contains ·)
  let spec ← state.1.set textReaders field
  pure (spec, field :: state.2)

open Json in
/-- Reads options. -/
def read : Reader ConnectionSpec := do
  let c ← nextChar
  if c = '\x7b' then
    let (spec, _) ← readSequence '\x7d' readMember ({}, [])
    pure spec
  else if c = '[' then
    let (spec, missing) ← readTuple true {} (SpecField.all.map fun field spec => spec.set textReaders field)
    if missing = 0 then pure spec else throw .misfit
  else refuse c

/-- The options that a JSON text spells. -/
def ofJsonText (text : String) : Except Json.Fault ConnectionSpec := do
  let (spec, rest) ← read.run text.toList
  Json.readEnd rest
  .ok spec

end ConnectionSpec

end Tether

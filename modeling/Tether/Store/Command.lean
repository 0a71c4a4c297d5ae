import Tether.Binary64.Text
import Tether.Duration
import Tether.Store.Conversion

namespace Tether

/-! # Commands

A command is a list of parts, each of them bytes. A caller's value becomes any number of parts
(`Argument.parts`), and each operation of a client becomes one command (`Call.command`).
-/

/-- A part of a command. -/
inductive Part where
  | bytes (bs : Bytes)
  /-- Where an iteration over keys stands. -/
  | cursor (position : UInt64)
deriving DecidableEq, Repr

/-- A command to the store. -/
abbrev Command := List Part

/-- The part of a text. -/
def Part.ofText (s : String) : Part := .bytes (Utf8.encode s)

/-- A part as text, where a cursor is not shown. -/
def Part.text : Part → String
  | .bytes bs => Utf8.decodeLossy bs
  | .cursor _ => "<cursor>"

/-- A command as texts. -/
def Command.texts (c : Command) : List String := c.map Part.text

/-- A value that a caller passes to a command. -/
inductive Argument where
  | text (s : String)
  | integer (i : Int)
  | flag (b : Bool)
  | float (x : Binary64)
  | bytes (bs : Bytes)
  | nothing
  | list (items : List Argument)
deriving Repr, Inhabited

mutual

/-- The bytes of the parts that a value becomes. -/
def Argument.encode : Argument → List Bytes
  | .text s => [Utf8.encode s]
  | .integer i => [Utf8.encode (Decimal.ofInt i)]
  | .flag b => [Utf8.encode (if b then "1" else "0")]
  | .float x => [Utf8.encode x.wireText]
  | .bytes bs => [bs]
  | .nothing => []
  | .list items => Argument.encodeAll items

/-- The bytes of the parts that values become. -/
def Argument.encodeAll : List Argument → List Bytes
  | [] => []
  | a :: rest => a.encode ++ Argument.encodeAll rest

end

/-- The parts that a value becomes. -/
def Argument.parts (a : Argument) : List Part := a.encode.map Part.bytes

/-- A number of 128 bits in 64 bits, if they hold it. -/
def narrow? (n : BitVec 128) : Option UInt64 :=
  if n.toNat < UInt64.size then some (.ofNat n.toNat) else none

/-- A time to live in whole milliseconds: at least one, and at most what 64 bits hold. -/
def expiryMillis (ttl : Duration) : UInt64 := max ((narrow? ttl.toMillis).getD 0xFFFFFFFFFFFFFFFF) 1

/-- An operation of a client. -/
inductive Call where
  | set (key : String) (value : Argument) (expiry : Option Duration)
  | get (key : String)
  | getSet (key : String) (value : Argument)
  | getDel (key : String)
  | mget (keys : List String)
  | incr (key : String)
  | incrBy (key : String) (increment : Int64)
  | decr (key : String)
  | decrBy (key : String) (decrement : Int64)
  | ping
  | del (keys : List String)
  | countExisting (keys : List String)
  | randomKey
  | expire (key : String) (ttl : Duration)
  | timeToLive (key : String)
  | persist (key : String)
  | lpush (key : String) (values : Argument)
  | rpush (key : String) (values : Argument)
  | lpop (key : String)
  | rpop (key : String)
  | lrange (key : String) (start stop : Int64)
  | lindex (key : String) (index : Int64)
  | lset (key : String) (index : Int64) (value : Argument)
  | lrem (key : String) (count : Int64) (value : Argument)
  | llen (key : String)
  | hset (key field : String) (value : Argument)
  | hsetnx (key field : String) (value : Argument)
  | hget (key field : String)
  | hdel (key : String) (fields : List String)
  | hgetall (key : String)
  | hkeys (key : String)
  | hvals (key : String)
  | hlen (key : String)
  | hincrBy (key field : String) (increment : Int64)
  | sadd (key : String) (members : Argument)
  | srem (key : String) (members : Argument)
  | sismember (key : String) (member : Argument)
  | smembers (key : String)
  | srandmember (key : String)
  | spop (key : String)
  /-- Any other command, whose reply is the result. -/
  | send (name : String) (args : Argument)
deriving Repr, Inhabited

namespace Call

/-- A command of its name and its parts. -/
def named (name : String) (parts : List Part) : Command := Part.ofText name :: parts

/-- The part of a whole number. -/
def number (i : Int64) : Part := Part.ofText (Decimal.ofInt i.toInt)

/-- The part of a time to live. -/
def millis (ttl : Duration) : Part := Part.ofText (Decimal.ofNat (expiryMillis ttl).toNat)

/-- The parts of an expiry that may be missing. -/
def expiryParts : Option Duration → List Part
  | none => []
  | some ttl => [Part.ofText "PX", millis ttl]

/-- The command of an operation. -/
def command : Call → Command
  | .set key value expiry => named "SET" (Part.ofText key :: value.parts ++ expiryParts expiry)
  | .get key => named "GET" [Part.ofText key]
  | .getSet key value => named "GETSET" (Part.ofText key :: value.parts)
  | .getDel key => named "GETDEL" [Part.ofText key]
  | .mget keys => named "MGET" (keys.map Part.ofText)
  | .incr key => named "INCR" [Part.ofText key]
  | .incrBy key n => named "INCRBY" [Part.ofText key, number n]
  | .decr key => named "DECR" [Part.ofText key]
  | .decrBy key n => named "DECRBY" [Part.ofText key, number n]
  | .ping => named "PING" []
  | .del keys => named "DEL" (keys.map Part.ofText)
  | .countExisting keys => named "EXISTS" (keys.map Part.ofText)
  | .randomKey => named "RANDOMKEY" []
  | .expire key ttl => named "PEXPIRE" [Part.ofText key, millis ttl]
  | .timeToLive key => named "TTL" [Part.ofText key]
  | .persist key => named "PERSIST" [Part.ofText key]
  | .lpush key values => named "LPUSH" (Part.ofText key :: values.parts)
  | .rpush key values => named "RPUSH" (Part.ofText key :: values.parts)
  | .lpop key => named "LPOP" [Part.ofText key]
  | .rpop key => named "RPOP" [Part.ofText key]
  | .lrange key start stop => named "LRANGE" [Part.ofText key, number start, number stop]
  | .lindex key index => named "LINDEX" [Part.ofText key, number index]
  | .lset key index value => named "LSET" (Part.ofText key :: number index :: value.parts)
  | .lrem key count value => named "LREM" (Part.ofText key :: number count :: value.parts)
  | .llen key => named "LLEN" [Part.ofText key]
  | .hset key field value => named "HSET" (Part.ofText key :: Part.ofText field :: value.parts)
  | .hsetnx key field value => named "HSETNX" (Part.ofText key :: Part.ofText field :: value.parts)
  | .hget key field => named "HGET" [Part.ofText key, Part.ofText field]
  | .hdel key fields => named "HDEL" (Part.ofText key :: fields.map Part.ofText)
  | .hgetall key => named "HGETALL" [Part.ofText key]
  | .hkeys key => named "HKEYS" [Part.ofText key]
  | .hvals key => named "HVALS" [Part.ofText key]
  | .hlen key => named "HLEN" [Part.ofText key]
  | .hincrBy key field n => named "HINCRBY" [Part.ofText key, Part.ofText field, number n]
  | .sadd key members => named "SADD" (Part.ofText key :: members.parts)
  | .srem key members => named "SREM" (Part.ofText key :: members.parts)
  | .sismember key member => named "SISMEMBER" (Part.ofText key :: member.parts)
  | .smembers key => named "SMEMBERS" [Part.ofText key]
  | .srandmember key => named "SRANDMEMBER" [Part.ofText key]
  | .spop key => named "SPOP" [Part.ofText key]
  | .send name args => named name args.parts

/-- The type of the result of an operation. -/
def result : Call → ResultType
  | .set .. => .unit
  | .lset .. => .unit
  | .get _ => .optionalText
  | .getSet .. => .optionalText
  | .getDel _ => .optionalText
  | .randomKey => .optionalText
  | .lpop _ => .optionalText
  | .rpop _ => .optionalText
  | .lindex .. => .optionalText
  | .hget .. => .optionalText
  | .srandmember _ => .optionalText
  | .spop _ => .optionalText
  | .mget _ => .optionalTexts
  | .ping => .text
  | .expire .. => .flag
  | .persist _ => .flag
  | .sismember .. => .flag
  | .hsetnx .. => .flag
  | .lrange .. => .texts
  | .hkeys _ => .texts
  | .hvals _ => .texts
  | .smembers _ => .texts
  | .hgetall _ => .table
  | .send .. => .raw
  | _ => .integer

end Call

end Tether

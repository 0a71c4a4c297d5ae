import Tether.Proofs.Text.Integer
import Tether.Proofs.Text.Utf8
import Tether.Store.Command

namespace Tether

/-! # What a command says

A command says which operation it stands for and with what arguments. We show that it says so in one way only: there is
a reader of commands that gives back the message of every operation of a client (`ofCommand?_command`), though a key or
a value may be any text, the names of operations and options included. An operation that sends a command of the
caller's own making is left out, since that may be any command.
-/

/-- The operations of a client, without their arguments. -/
inductive Method where
  | set
  | get
  | getSet
  | getDel
  | mget
  | incr
  | incrBy
  | decr
  | decrBy
  | ping
  | del
  | countExisting
  | randomKey
  | expire
  | timeToLive
  | persist
  | lpush
  | rpush
  | lpop
  | rpop
  | lrange
  | lindex
  | lset
  | lrem
  | llen
  | hset
  | hsetnx
  | hget
  | hdel
  | hgetall
  | hkeys
  | hvals
  | hlen
  | hincrBy
  | sadd
  | srem
  | sismember
  | smembers
  | srandmember
  | spop
deriving DecidableEq, Repr

/-- What stands behind the arguments that are one part each. -/
inductive Ending where
  | nothing
  /-- An argument of any number of parts. -/
  | values
  /-- A time to live in milliseconds. -/
  | lifetime
  /-- The word `PX` and a time to live in milliseconds, or nothing. -/
  | optionalLifetime

/-- The form of the commands of an operation. -/
structure Form where
  word : String
  /-- The number of arguments that are one part each. -/
  singles : Nat
  ending : Ending

/-- The form of an operation's commands. -/
def Method.form : Method → Form
  | .set => ⟨"SET", 2, .optionalLifetime⟩
  | .get => ⟨"GET", 1, .nothing⟩
  | .getSet => ⟨"GETSET", 2, .nothing⟩
  | .getDel => ⟨"GETDEL", 1, .nothing⟩
  | .mget => ⟨"MGET", 0, .values⟩
  | .incr => ⟨"INCR", 1, .nothing⟩
  | .incrBy => ⟨"INCRBY", 2, .nothing⟩
  | .decr => ⟨"DECR", 1, .nothing⟩
  | .decrBy => ⟨"DECRBY", 2, .nothing⟩
  | .ping => ⟨"PING", 0, .nothing⟩
  | .del => ⟨"DEL", 0, .values⟩
  | .countExisting => ⟨"EXISTS", 0, .values⟩
  | .randomKey => ⟨"RANDOMKEY", 0, .nothing⟩
  | .expire => ⟨"PEXPIRE", 1, .lifetime⟩
  | .timeToLive => ⟨"TTL", 1, .nothing⟩
  | .persist => ⟨"PERSIST", 1, .nothing⟩
  | .lpush => ⟨"LPUSH", 1, .values⟩
  | .rpush => ⟨"RPUSH", 1, .values⟩
  | .lpop => ⟨"LPOP", 1, .nothing⟩
  | .rpop => ⟨"RPOP", 1, .nothing⟩
  | .lrange => ⟨"LRANGE", 3, .nothing⟩
  | .lindex => ⟨"LINDEX", 2, .nothing⟩
  | .lset => ⟨"LSET", 3, .nothing⟩
  | .lrem => ⟨"LREM", 3, .nothing⟩
  | .llen => ⟨"LLEN", 1, .nothing⟩
  | .hset => ⟨"HSET", 3, .nothing⟩
  | .hsetnx => ⟨"HSETNX", 3, .nothing⟩
  | .hget => ⟨"HGET", 2, .nothing⟩
  | .hdel => ⟨"HDEL", 1, .values⟩
  | .hgetall => ⟨"HGETALL", 1, .nothing⟩
  | .hkeys => ⟨"HKEYS", 1, .nothing⟩
  | .hvals => ⟨"HVALS", 1, .nothing⟩
  | .hlen => ⟨"HLEN", 1, .nothing⟩
  | .hincrBy => ⟨"HINCRBY", 3, .nothing⟩
  | .sadd => ⟨"SADD", 1, .values⟩
  | .srem => ⟨"SREM", 1, .values⟩
  | .sismember => ⟨"SISMEMBER", 2, .nothing⟩
  | .smembers => ⟨"SMEMBERS", 1, .nothing⟩
  | .srandmember => ⟨"SRANDMEMBER", 1, .nothing⟩
  | .spop => ⟨"SPOP", 1, .nothing⟩

/-- All operations. -/
def Method.all : List Method :=
  [.set, .get, .getSet, .getDel, .mget, .incr, .incrBy, .decr, .decrBy, .ping, .del, .countExisting, .randomKey,
    .expire, .timeToLive, .persist, .lpush, .rpush, .lpop, .rpop, .lrange, .lindex, .lset, .lrem, .llen, .hset,
    .hsetnx, .hget, .hdel, .hgetall, .hkeys, .hvals, .hlen, .hincrBy, .sadd, .srem, .sismember, .smembers,
    .srandmember, .spop]

/-- What a command says: the operation, the parts of each argument in the order in which they are declared, and the
time to live in milliseconds, if there is one. -/
structure Message where
  method : Method
  arguments : List (List Bytes)
  lifetime : Option UInt64 := none
deriving DecidableEq, Repr

namespace Call

/-- What an operation's command is to say, if the caller did not make the command. -/
def message? : Call → Option Message
  | .set key value ttl => some ⟨.set, [[Utf8.encode key], value.encode], ttl.map expiryMillis⟩
  | .get key => some ⟨.get, [[Utf8.encode key]], none⟩
  | .getSet key value => some ⟨.getSet, [[Utf8.encode key], value.encode], none⟩
  | .getDel key => some ⟨.getDel, [[Utf8.encode key]], none⟩
  | .mget keys => some ⟨.mget, [keys.map Utf8.encode], none⟩
  | .incr key => some ⟨.incr, [[Utf8.encode key]], none⟩
  | .incrBy key n => some ⟨.incrBy, [[Utf8.encode key], [Utf8.encode (Decimal.ofInt n.toInt)]], none⟩
  | .decr key => some ⟨.decr, [[Utf8.encode key]], none⟩
  | .decrBy key n => some ⟨.decrBy, [[Utf8.encode key], [Utf8.encode (Decimal.ofInt n.toInt)]], none⟩
  | .ping => some ⟨.ping, [], none⟩
  | .del keys => some ⟨.del, [keys.map Utf8.encode], none⟩
  | .countExisting keys => some ⟨.countExisting, [keys.map Utf8.encode], none⟩
  | .randomKey => some ⟨.randomKey, [], none⟩
  | .expire key ttl => some ⟨.expire, [[Utf8.encode key]], some (expiryMillis ttl)⟩
  | .timeToLive key => some ⟨.timeToLive, [[Utf8.encode key]], none⟩
  | .persist key => some ⟨.persist, [[Utf8.encode key]], none⟩
  | .lpush key values => some ⟨.lpush, [[Utf8.encode key], values.encode], none⟩
  | .rpush key values => some ⟨.rpush, [[Utf8.encode key], values.encode], none⟩
  | .lpop key => some ⟨.lpop, [[Utf8.encode key]], none⟩
  | .rpop key => some ⟨.rpop, [[Utf8.encode key]], none⟩
  | .lrange key start stop => some ⟨.lrange, [[Utf8.encode key], [Utf8.encode (Decimal.ofInt start.toInt)],
      [Utf8.encode (Decimal.ofInt stop.toInt)]], none⟩
  | .lindex key index => some ⟨.lindex, [[Utf8.encode key], [Utf8.encode (Decimal.ofInt index.toInt)]], none⟩
  | .lset key index value =>
    some ⟨.lset, [[Utf8.encode key], [Utf8.encode (Decimal.ofInt index.toInt)], value.encode], none⟩
  | .lrem key count value =>
    some ⟨.lrem, [[Utf8.encode key], [Utf8.encode (Decimal.ofInt count.toInt)], value.encode], none⟩
  | .llen key => some ⟨.llen, [[Utf8.encode key]], none⟩
  | .hset key field value => some ⟨.hset, [[Utf8.encode key], [Utf8.encode field], value.encode], none⟩
  | .hsetnx key field value => some ⟨.hsetnx, [[Utf8.encode key], [Utf8.encode field], value.encode], none⟩
  | .hget key field => some ⟨.hget, [[Utf8.encode key], [Utf8.encode field]], none⟩
  | .hdel key fields => some ⟨.hdel, [[Utf8.encode key], fields.map Utf8.encode], none⟩
  | .hgetall key => some ⟨.hgetall, [[Utf8.encode key]], none⟩
  | .hkeys key => some ⟨.hkeys, [[Utf8.encode key]], none⟩
  | .hvals key => some ⟨.hvals, [[Utf8.encode key]], none⟩
  | .hlen key => some ⟨.hlen, [[Utf8.encode key]], none⟩
  | .hincrBy key field n =>
    some ⟨.hincrBy, [[Utf8.encode key], [Utf8.encode field], [Utf8.encode (Decimal.ofInt n.toInt)]], none⟩
  | .sadd key members => some ⟨.sadd, [[Utf8.encode key], members.encode], none⟩
  | .srem key members => some ⟨.srem, [[Utf8.encode key], members.encode], none⟩
  | .sismember key member => some ⟨.sismember, [[Utf8.encode key], member.encode], none⟩
  | .smembers key => some ⟨.smembers, [[Utf8.encode key]], none⟩
  | .srandmember key => some ⟨.srandmember, [[Utf8.encode key]], none⟩
  | .spop key => some ⟨.spop, [[Utf8.encode key]], none⟩
  | .send .. => none

/-- The value of an operation that takes one. -/
def value? : Call → Option Argument
  | .set _ value _ => some value
  | .getSet _ value => some value
  | .lset _ _ value => some value
  | .lrem _ _ value => some value
  | .hset _ _ value => some value
  | .hsetnx _ _ value => some value
  | .sismember _ member => some member
  | _ => none

/-- The value of an operation that takes one becomes one part. -/
def TakesOne (k : Call) : Prop := ∀ a ∈ k.value?, ∃ bs, a.encode = [bs]

theorem message?_eq_none_iff {k : Call} : k.message? = none ↔ ∃ name args, k = .send name args := by
  cases k <;> simp [message?]

end Call

/-! ## Reading a command -/

/-- The bytes of a part, where no cursor stands. -/
def Part.bytes? : Part → Option Bytes
  | .bytes bs => some bs
  | .cursor _ => none

/-- The operation that a word names. -/
def Method.ofWord? (bs : Bytes) : Option Method :=
  (Utf8.decode? bs).bind fun word => all.find? (·.form.word = word)

/-- A time to live in milliseconds. -/
def Ending.lifetime? (bs : Bytes) : Option UInt64 :=
  (Utf8.decode? bs).bind fun text => (Decimal.natural? (UInt64.size - 1) text.toList).map .ofNat

namespace Message

/-- Reads what stands behind the arguments that are one part each. -/
def ofEnding? (m : Method) (singles : List (List Bytes)) : Ending → List Bytes → Option Message
  | .nothing, [] => some ⟨m, singles, none⟩
  | .values, values => some ⟨m, singles ++ [values], none⟩
  | .lifetime, [ms] => (Ending.lifetime? ms).map fun ms => ⟨m, singles, some ms⟩
  | .optionalLifetime, [] => some ⟨m, singles, none⟩
  | .optionalLifetime, [word, ms] =>
    if word = Utf8.encode "PX" then (Ending.lifetime? ms).map fun ms => ⟨m, singles, some ms⟩ else none
  | _, _ => none

/-- Reads the parts behind the name of an operation. -/
def ofParts? (m : Method) (parts : List Bytes) : Option Message :=
  if parts.length < m.form.singles then none
  else ofEnding? m ((parts.take m.form.singles).map ([·])) m.form.ending (parts.drop m.form.singles)

/-- Reads a command. -/
def ofCommand? (c : Command) : Option Message :=
  match c.mapM Part.bytes? with
  | some (word :: parts) => (Method.ofWord? word).bind (ofParts? · parts)
  | _ => none

/-! ## Writing a command -/

/-- The parts of a time to live. -/
def lifetimeParts : Ending → Option UInt64 → List Bytes
  | .lifetime, some ms => [Utf8.encode (Decimal.ofNat ms.toNat)]
  | .optionalLifetime, some ms => [Utf8.encode "PX", Utf8.encode (Decimal.ofNat ms.toNat)]
  | _, _ => []

/-- The command of a message. -/
def command (m : Message) : Command :=
  Part.ofText m.method.form.word :: (m.arguments.flatten ++ lifetimeParts m.method.form.ending m.lifetime).map .bytes

/-- A message has the arguments and the time to live that its operation takes. -/
inductive Fits : Message → Prop where
  | nothing (m : Method) (singles : List Bytes) (hs : singles.length = m.form.singles) (he : m.form.ending = .nothing) :
      Fits ⟨m, singles.map ([·]), none⟩
  | values (m : Method) (singles values : List Bytes) (hs : singles.length = m.form.singles)
      (he : m.form.ending = .values) : Fits ⟨m, singles.map ([·]) ++ [values], none⟩
  | lifetime (m : Method) (singles : List Bytes) (ms : UInt64) (hs : singles.length = m.form.singles)
      (he : m.form.ending = .lifetime) : Fits ⟨m, singles.map ([·]), some ms⟩
  | optionalLifetime (m : Method) (singles : List Bytes) (ms : Option UInt64) (hs : singles.length = m.form.singles)
      (he : m.form.ending = .optionalLifetime) : Fits ⟨m, singles.map ([·]), ms⟩

end Message

theorem Method.ofWord?_word (m : Method) : ofWord? (Utf8.encode m.form.word) = some m := by
  rw [ofWord?, Utf8.decode?_encode]
  cases m <;> rfl

theorem Ending.lifetime?_ofNat (ms : UInt64) : lifetime? (Utf8.encode (Decimal.ofNat ms.toNat)) = some ms := by
  have hle : ms.toNat ≤ UInt64.size - 1 := Nat.le_pred_of_lt ms.toNat_lt
  rw [lifetime?, Utf8.decode?_encode, Option.bind_some, Decimal.natural?_ofNat hle, Option.map_some, UInt64.ofNat_toNat]

namespace Message

variable {m : Message}

theorem ofParts?_append (m : Method) {singles : List Bytes} (hs : singles.length = m.form.singles)
    (more : List Bytes) : ofParts? m (singles ++ more) = ofEnding? m (singles.map ([·])) m.form.ending more := by
  have hlong : ¬ (singles ++ more).length < m.form.singles := by
    rw [List.length_append]
    omega
  rw [ofParts?, if_neg hlong, ← hs, List.take_left, List.drop_left]

/-- The parts of a message that fits are read as the message. -/
theorem ofParts?_of_fits (h : m.Fits) :
    ofParts? m.method (m.arguments.flatten ++ lifetimeParts m.method.form.ending m.lifetime) = some m := by
  have hflatten : ∀ singles : List Bytes, (singles.map ([·])).flatten = singles := by
    intro singles
    rw [← List.flatMap_def, List.flatMap_singleton']
  cases h with
  | nothing m singles hs he =>
    rw [hflatten, ofParts?_append m hs, he]
    rfl
  | values m singles values hs he =>
    rw [List.flatten_append, hflatten, List.append_assoc, ofParts?_append m hs, he]
    simp [ofEnding?, lifetimeParts]
  | lifetime m singles ms hs he =>
    rw [hflatten, ofParts?_append m hs, he]
    simp [ofEnding?, lifetimeParts, Ending.lifetime?_ofNat]
  | optionalLifetime m singles ms hs he =>
    rw [hflatten, ofParts?_append m hs, he]
    cases ms with
    | none => rfl
    | some ms => simp [ofEnding?, lifetimeParts, Ending.lifetime?_ofNat]

theorem mapM_bytes? (parts : List Bytes) : (parts.map Part.bytes).mapM Part.bytes? = some parts := by
  induction parts with
  | nil => rfl
  | cons bs rest ih =>
    rw [List.map_cons, List.mapM_cons, ih]
    rfl

/-- The command of a message that fits is read as the message. -/
theorem ofCommand?_command_of_fits (h : m.Fits) : ofCommand? m.command = some m := by
  have hparts := ofParts?_of_fits h
  rw [ofCommand?, command, Part.ofText, List.mapM_cons, mapM_bytes?]
  show (Method.ofWord? _).bind _ = _
  rw [Method.ofWord?_word, Option.bind_some, hparts]

end Message

/-! ## What an operation sends -/

namespace Call

variable {k l : Call} {m : Message}

/-- An operation sends the command of its message. -/
theorem command_eq (h : k.message? = some m) : k.command = m.command := by
  cases k with
  | send name args => cases h
  | set key value ttl =>
    cases h
    cases ttl <;> simp [command, named, Message.command, Message.lifetimeParts, Method.form, Argument.parts, expiryParts,
      millis, Part.ofText]
  | _ =>
    cases h
    simp [command, named, Message.command, Message.lifetimeParts, Method.form, Argument.parts, number, millis,
      Part.ofText]

/-- The message of an operation fits, if its value becomes one part. -/
theorem fits_message (h : k.message? = some m) (hk : k.TakesOne) : m.Fits := by
  cases k with
  | send name args => cases h
  | ping | randomKey =>
    cases h
    exact .nothing _ [] rfl rfl
  | get | getDel | incr | decr | timeToLive | persist | lpop | rpop | llen | hgetall | hkeys | hvals | hlen | smembers
  | srandmember | spop =>
    cases h
    exact .nothing _ [_] rfl rfl
  | incrBy | decrBy | lindex | hget =>
    cases h
    exact .nothing _ [_, _] rfl rfl
  | lrange | hincrBy =>
    cases h
    exact .nothing _ [_, _, _] rfl rfl
  | getSet _ value | sismember _ value =>
    obtain ⟨bs, hbs⟩ := hk value rfl
    cases h
    rw [hbs]
    exact .nothing _ [_, _] rfl rfl
  | lset _ _ value | lrem _ _ value | hset _ _ value | hsetnx _ _ value =>
    obtain ⟨bs, hbs⟩ := hk value rfl
    cases h
    rw [hbs]
    exact .nothing _ [_, _, _] rfl rfl
  | mget | del | countExisting =>
    cases h
    exact .values _ [] _ rfl rfl
  | lpush | rpush | hdel | sadd | srem =>
    cases h
    exact .values _ [_] _ rfl rfl
  | expire =>
    cases h
    exact .lifetime _ [_] _ rfl rfl
  | set _ value ttl =>
    obtain ⟨bs, hbs⟩ := hk value rfl
    cases h
    rw [hbs]
    exact .optionalLifetime _ [_, _] _ rfl rfl

theorem ofCommand?_command (h : k.message? = some m) (hk : k.TakesOne) : Message.ofCommand? k.command = some m := by
  rw [command_eq h]
  exact Message.ofCommand?_command_of_fits (fits_message h hk)

/-- One reader gives back what the command of any operation says, if a value that is one argument becomes one part; only
the commands that callers make themselves are left out. So two operations send one command exactly if they are the same
operation with the same parts in every argument, and with the same time to live or both with none. -/
theorem commands_are_decodable :
    (∀ (k : Call) (m : Message), k.message? = some m → k.TakesOne → Message.ofCommand? k.command = some m) ∧
    (∀ k : Call, k.message? = none ↔ ∃ name args, k = .send name args) ∧
    ∀ (k l : Call) (m n : Message), k.message? = some m → l.message? = some n → k.TakesOne → l.TakesOne →
      (k.command = l.command ↔ m = n) := by
  refine ⟨fun k m => ofCommand?_command, fun k => message?_eq_none_iff, ?_⟩
  intro k l m n hm hn hk hl
  constructor
  · intro hcommand
    have hread := ofCommand?_command hm hk
    rw [hcommand, ofCommand?_command hn hl] at hread
    exact (Option.some.inj hread).symm
  · rintro rfl
    rw [command_eq hm, command_eq hn]

/-- A key and a value that are named like an option, with a time to live and without. -/
theorem commands_are_decodable_of_px :
    (Call.set "PX" (.text "PX") (some (.ofMillis 5))).TakesOne ∧
    Message.ofCommand? (Call.set "PX" (.text "PX") (some (.ofMillis 5))).command =
      some ⟨.set, [[Utf8.encode "PX"], [Utf8.encode "PX"]], some 5⟩ ∧
    (Call.set "PX" (.text "PX") none).command ≠ (Call.set "PX" (.text "PX") (some (.ofMillis 5))).command := by
  have hone : ∀ ttl, (Call.set "PX" (.text "PX") ttl).TakesOne := by
    intro ttl a ha
    cases ha
    exact ⟨Utf8.encode "PX", by simp [Argument.encode]⟩
  have hmillis : expiryMillis (.ofMillis 5) = 5 := by decide
  obtain ⟨hread, _, hsame⟩ := commands_are_decodable
  refine ⟨hone _, hread _ _ ?_ (hone _), ?_⟩
  · simp [message?, Argument.encode, hmillis]
  · intro hcommand
    have heq := (hsame _ _ _ _ rfl rfl (hone _) (hone _)).1 hcommand
    cases congrArg Message.lifetime heq

end Call

end Tether

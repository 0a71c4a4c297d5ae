import Tether.Handle.Basic

namespace Tether

/-! # Handles that record

A recording handle sends nothing. It counts and keeps the commands that it gets and answers them from a queue of
replies, and with OK once the queue is empty. A query takes three steps, each of which is on its own:
`count`, `record` and `pop`.
-/

/-- A handle that keeps commands and answers from a queue. -/
structure RecordingHandle where
  descriptor : Descriptor
  queries : Nat := 0
  commands : List (List String) := []
  replies : List (Except StoreError Reply) := []

namespace RecordingHandle

/-- A handle that has had no command. -/
def new (d : Descriptor) : RecordingHandle := { descriptor := d }

/-- Counts a query. -/
def count (h : RecordingHandle) : RecordingHandle := { h with queries := h.queries + 1 }

/-- Keeps a command. -/
def record (c : Command) (h : RecordingHandle) : RecordingHandle :=
  { h with commands := h.commands ++ [c.texts] }

/-- Takes the oldest reply. -/
def pop (h : RecordingHandle) : Except StoreError Reply × RecordingHandle :=
  match h.replies with
  | [] => (.ok .ok, h)
  | reply :: rest => (reply, { h with replies := rest })

/-- Queues a reply. -/
def push (reply : Except StoreError Reply) (h : RecordingHandle) : RecordingHandle :=
  { h with replies := h.replies ++ [reply] }

/-- Runs a command. -/
def query (c : Command) (h : RecordingHandle) : Except StoreError Reply × RecordingHandle :=
  (h.count.record c).pop

@[simp] theorem queries_query (c : Command) (h : RecordingHandle) : (h.query c).2.queries = h.queries + 1 := by
  cases hr : h.replies <;> simp [query, pop, record, count, hr]

@[simp] theorem commands_query (c : Command) (h : RecordingHandle) :
    (h.query c).2.commands = h.commands ++ [c.texts] := by
  cases hr : h.replies <;> simp [query, pop, record, count, hr]

@[simp] theorem replies_query (c : Command) (h : RecordingHandle) : (h.query c).2.replies = h.replies.tail := by
  cases hr : h.replies <;> simp [query, pop, record, count, hr]

theorem reply_query (c : Command) (h : RecordingHandle) : (h.query c).1 = h.replies.head?.getD (.ok .ok) := by
  cases hr : h.replies <;> simp [query, pop, record, count, hr]

/-- The command that came last. -/
def lastCommand? (h : RecordingHandle) : Option (List String) := h.commands.getLast?

/-- Recording handles as a kind; they leave the world alone. -/
def kind : HandleKind RecordingHandle Unit where
  create := new
  query c h w := (.ofStore (h.query c).1, (h.query c).2, w)

end RecordingHandle

end Tether

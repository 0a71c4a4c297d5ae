import Tether.Proofs.Client.Call
import Tether.Proofs.Session.Lookups

namespace Tether

/-! # What was done with the handles of a session

A ledger has, in order, the replies that were queued on handles and the commands that were sent to them. By the ledger a
handle has had the commands that were sent to it, and has those of the queued replies left that no command has taken
(`RecordingHandle.Account`). We show that a registry whose handles agree with a ledger (`Registry.Kept`) goes on to do
so when a handle is created, gets replies or gets a command.
-/

/-- Something that is done with a handle. -/
inductive Deed where
  | queued (reply : Except StoreError Reply)
  | sent (command : Command)

namespace Deed

/-- The commands among deeds, as the texts of their parts. -/
def commands (deeds : List Deed) : List (List String) :=
  deeds.filterMap fun
    | .queued _ => none
    | .sent command => some command.texts

/-- The replies that are left: a command takes the oldest one. -/
def waiting (deeds : List Deed) : List (Except StoreError Reply) :=
  deeds.foldl (fun replies deed =>
    match deed with
    | .queued reply => replies ++ [reply]
    | .sent _ => replies.tail) []

/-- The reply that a command gets: the oldest one that is left, and OK if there is none. -/
def next (deeds : List Deed) : Except StoreError Reply := (waiting deeds).head?.getD (.ok .ok)

variable (deeds : List Deed)

theorem commands_append (more : List Deed) : commands (deeds ++ more) = commands deeds ++ commands more :=
  List.filterMap_append ..

@[simp] theorem commands_queued (replies : List (Except StoreError Reply)) : commands (replies.map .queued) = [] := by
  induction replies with
  | nil => rfl
  | cons _ _ ih => exact ih

@[simp] theorem commands_sent (c : Command) : commands [.sent c] = [c.texts] := rfl

theorem waiting_append_queued (replies : List (Except StoreError Reply)) :
    waiting (deeds ++ replies.map .queued) = waiting deeds ++ replies := by
  induction replies generalizing deeds with
  | nil => simp
  | cons reply rest ih =>
    -- one reply at a time, since a deed's effect is on what the earlier ones left
    have hfirst : waiting (deeds ++ [.queued reply]) = waiting deeds ++ [reply] := by simp [waiting]
    have hsplit : deeds ++ (reply :: rest).map .queued = (deeds ++ [.queued reply]) ++ rest.map .queued := by simp
    rw [hsplit, ih, hfirst, List.append_assoc, List.singleton_append]

@[simp] theorem waiting_append_sent (c : Command) : waiting (deeds ++ [.sent c]) = (waiting deeds).tail := by
  simp [waiting]

end Deed

/-- What was done with which handle, in order. -/
abbrev Ledger := List (HandleId × Deed)

namespace Ledger

/-- What was done with one handle. -/
def on (l : Ledger) (id : HandleId) : List Deed := l.filterMap fun e => if e.1 = id then some e.2 else none

variable (l : Ledger)

theorem on_append (more : Ledger) (id : HandleId) : (l ++ more).on id = l.on id ++ more.on id := List.filterMap_append ..

theorem on_eq_nil {id : HandleId} (h : ∀ e ∈ l, e.1 ≠ id) : l.on id = [] := by
  rw [on, List.filterMap_eq_nil_iff]
  intro e he
  rw [if_neg (h e he)]

/-- The ledger of deeds with one handle. -/
def ofDeeds (id : HandleId) (deeds : List Deed) : Ledger := deeds.map (id, ·)

theorem fst_of_mem_ofDeeds {id : HandleId} {deeds : List Deed} {e : HandleId × Deed} (h : e ∈ ofDeeds id deeds) :
    e.1 = id := by
  obtain ⟨deed, -, rfl⟩ := List.mem_map.1 h
  rfl

theorem on_ofDeeds_self (id : HandleId) (deeds : List Deed) : (ofDeeds id deeds).on id = deeds := by
  induction deeds with
  | nil => rfl
  | cons deed rest ih =>
    have hcons : (ofDeeds id (deed :: rest)).on id = deed :: (ofDeeds id rest).on id := by simp [ofDeeds, on]
    rw [hcons, ih]

theorem on_ofDeeds_of_ne {id other : HandleId} (h : other ≠ id) (deeds : List Deed) :
    (ofDeeds id deeds).on other = [] := by
  refine on_eq_nil _ ?_
  rintro e he rfl
  exact h (fst_of_mem_ofDeeds he)

end Ledger

/-- A handle has had the commands and has the replies that deeds leave it with. -/
structure RecordingHandle.Account (h : RecordingHandle) (deeds : List Deed) : Prop where
  commands : h.commands = Deed.commands deeds
  queries : h.queries = (Deed.commands deeds).length
  replies : h.replies = Deed.waiting deeds

/-- Replies that are queued come after those that were there. -/
theorem RecordingHandle.foldl_push (h : RecordingHandle) (replies : List (Except StoreError Reply)) :
    replies.foldl (fun h r => h.push r) h = { h with replies := h.replies ++ replies } := by
  induction replies generalizing h with
  | nil => simp
  | cons reply rest ih =>
    rw [List.foldl_cons, ih]
    simp [push]

namespace RecordingHandle.Account

variable {h : RecordingHandle} {deeds : List Deed}

theorem new (d : Descriptor) : (RecordingHandle.new d).Account [] := ⟨rfl, rfl, rfl⟩

theorem push (ha : h.Account deeds) (replies : List (Except StoreError Reply)) :
    (replies.foldl (fun h r => h.push r) h).Account (deeds ++ replies.map .queued) := by
  rw [foldl_push]
  refine ⟨?_, ?_, ?_⟩
  · rw [Deed.commands_append, Deed.commands_queued, List.append_nil]
    exact ha.commands
  · rw [Deed.commands_append, Deed.commands_queued, List.append_nil]
    exact ha.queries
  · rw [Deed.waiting_append_queued, ← ha.replies]

theorem query (ha : h.Account deeds) (c : Command) : (h.query c).2.Account (deeds ++ [.sent c]) where
  commands := by rw [commands_query, ha.commands, Deed.commands_append, Deed.commands_sent]
  queries := by rw [queries_query, ha.queries, Deed.commands_append, Deed.commands_sent, List.length_append]; rfl
  replies := by rw [replies_query, ha.replies, Deed.waiting_append_sent]

/-- A command gets the oldest reply that is left. -/
theorem reply_query (ha : h.Account deeds) (c : Command) : (h.query c).1 = Deed.next deeds := by
  rw [RecordingHandle.reply_query, ha.replies, Deed.next]

end RecordingHandle.Account

/-- Every handle is as the ledger says, and the ledger is about handles that there are. -/
structure Registry.Kept (r : Registry RecordingHandle) (l : Ledger) : Prop where
  wellFormed : r.WellFormed
  account : ∀ id h, r.handle? id = some h → h.Account (l.on id)
  exists_handle : ∀ e ∈ l, e.1 < r.created

namespace Registry.Kept

variable {r : Registry RecordingHandle} {l : Ledger}

theorem empty : ({} : Registry RecordingHandle).Kept [] where
  wellFormed := wellFormed_empty
  account := by
    intro id h hid
    cases hid
  exists_handle := nofun

/-- What is done with a handle is entered in the ledger. -/
theorem update (hr : r.Kept l) {id : HandleId} {h h' : RecordingHandle} (hid : r.handle? id = some h)
    {deeds : List Deed} (ha : h'.Account (l.on id ++ deeds)) : (r.update id h').Kept (l ++ Ledger.ofDeeds id deeds) where
  wellFormed := hr.wellFormed.update id h'
  account := by
    intro other g hg
    rw [Ledger.on_append]
    by_cases hother : other = id
    · subst hother
      rw [handle?_update_self hid] at hg
      cases hg
      rwa [Ledger.on_ofDeeds_self]
    · rw [handle?_update_of_ne hother] at hg
      rw [Ledger.on_ofDeeds_of_ne hother, List.append_nil]
      exact hr.account other g hg
  exists_handle := by
    intro e he
    rw [created_update]
    rcases List.mem_append.1 he with he | he
    · exact hr.exists_handle e he
    · rw [Ledger.fst_of_mem_ofDeeds he]
      exact (List.getElem?_eq_some_iff.1 hid).1

/-- A handle that is created has nothing in the ledger. -/
theorem getOrCreate (hr : r.Kept l) (d : Descriptor) : (r.getOrCreate RecordingHandle.new d).registry.Kept l := by
  rw [(getOrCreate_eq_enter r RecordingHandle.new d).1]
  cases hp : r.probe d.fingerprint with
  | some id =>
    rw [enter_of_eq_some _ hp]
    exact hr
  | none =>
    rw [enter_of_eq_none _ hp]
    refine ⟨hr.wellFormed.insert _ hp, ?_, ?_⟩
    · intro id h hid
      change (r.handles ++ [RecordingHandle.new d])[id]? = some h at hid
      by_cases hlt : id < r.handles.length
      · rw [List.getElem?_append_left hlt] at hid
        exact hr.account id h hid
      · -- it is the one that was created
        rw [List.getElem?_append_right (Nat.le_of_not_lt hlt)] at hid
        have hnil : l.on id = [] := by
          refine l.on_eq_nil ?_
          rintro e he rfl
          exact hlt (hr.exists_handle e he)
        rw [List.mem_singleton.1 (List.mem_of_getElem? hid), hnil]
        exact .new d
    · intro e he
      have hlt := hr.exists_handle e he
      simp only [created, insert, List.length_append, List.length_cons, List.length_nil]
      exact Nat.lt_succ_of_lt hlt

end Registry.Kept

end Tether

import Mathlib.Algebra.Ring.Nat
import Mathlib.Data.List.Basic
import Mathlib.Data.List.Perm.Basic
import Mathlib.Logic.Function.Basic
import Tether.Handle.Recording
import Tether.Proofs.Descriptor.Sharing
import Tether.Proofs.Run

namespace Tether

/-! # Queries of one recording handle

Any number of queries run on one recording handle at the same time. A query counts itself, keeps its command and takes a
reply, and between any two of these the other queries, and whoever queues replies, may do anything. The count, the
commands and the replies are three things that no step changes together. We show:

* `inv_of_reachable`: each of the three is told by the queries' stages and by what was queued;
* `run_query`: a query that nobody comes between is `RecordingHandle.query`;
* `replies_are_taken_in_turn`: so no reply is lost, given twice or out of turn, and once all queries have ended nothing
  tells that they ran at the same time but the order of the commands.
-/

namespace RecordingHandle

variable (h : RecordingHandle)

theorem fst_pop : h.pop.1 = h.replies.head?.getD (.ok .ok) := by
  cases hr : h.replies <;> simp [pop, hr]

@[simp] theorem replies_pop : h.pop.2.replies = h.replies.tail := by
  cases hr : h.replies <;> simp [pop, hr]

@[simp] theorem queries_pop : h.pop.2.queries = h.queries := by
  cases hr : h.replies <;> simp [pop, hr]

@[simp] theorem commands_pop : h.pop.2.commands = h.commands := by
  cases hr : h.replies <;> simp [pop, hr]

end RecordingHandle

namespace SharedRecording

open Descriptor (ascending)

/-- What a query is answered: a reply, or the failure that stands for one. -/
abbrev Result := Except StoreError Reply

/-- How far a query is. -/
inductive Stage where
  | called
  | counted
  | recorded
  | answered (reply : Result)

/-- A query of the handle. -/
structure Query where
  command : Command
  stage : Stage

/-- A query takes its reply. -/
structure Taking where
  /-- The number of the query, in the order in which they were called. -/
  query : Nat
  /-- The replies that the handle had left. -/
  left : List Result
  reply : Result

/-- The queued replies that queries took, each with the number of the query. -/
def Taking.handed (takings : List Taking) : List (Nat × Result) :=
  takings.filterMap fun t => t.left.head?.map (t.query, ·)

/-- A handle with its queries, and what has happened to its replies. -/
structure St where
  handle : RecordingHandle
  queries : List Query := []
  /-- The replies that were queued, in order. -/
  queued : List Result := []
  takings : List Taking := []

namespace St

/-- A query is called. -/
def called (s : St) (c : Command) : St := { s with queries := s.queries ++ [⟨c, .called⟩] }

/-- A query gets to a stage. -/
def goes (s : St) (i : Nat) (c : Command) (stage : Stage) : St := { s with queries := s.queries.set i ⟨c, stage⟩ }

/-- A query counts itself. -/
def counted (s : St) (i : Nat) (c : Command) : St := { s.goes i c .counted with handle := s.handle.count }

/-- A query keeps its command. -/
def recorded (s : St) (i : Nat) (c : Command) : St := { s.goes i c .recorded with handle := s.handle.record c }

/-- A query takes its reply. -/
def answered (s : St) (i : Nat) (c : Command) : St :=
  { s.goes i c (.answered s.handle.pop.1) with
    handle := s.handle.pop.2
    takings := s.takings ++ [⟨i, s.handle.replies, s.handle.pop.1⟩] }

/-- A reply is queued, or a failure. -/
def pushed (s : St) (reply : Result) : St :=
  { s with handle := s.handle.push reply, queued := s.queued ++ [reply] }

end St

/-- A step of some query, or of somebody who calls one or queues a reply. -/
inductive Step : St → St → Prop where
  | call (s : St) (c : Command) : Step s (s.called c)
  | count (s : St) (i : Nat) (c : Command) (hi : s.queries[i]? = some ⟨c, .called⟩) : Step s (s.counted i c)
  | record (s : St) (i : Nat) (c : Command) (hi : s.queries[i]? = some ⟨c, .counted⟩) : Step s (s.recorded i c)
  | answer (s : St) (i : Nat) (c : Command) (hi : s.queries[i]? = some ⟨c, .recorded⟩) : Step s (s.answered i c)
  | push (s : St) (reply : Result) : Step s (s.pushed reply)

/-- What any steps lead to, from a new handle. -/
def Reachable (d : Descriptor) (s : St) : Prop := Run Step { handle := .new d } s

/-! ## What a step does -/

namespace Stage

/-- The query has counted itself. -/
def isCounted : Stage → Bool
  | .called => false
  | _ => true

/-- The query has kept its command. -/
def isRecorded : Stage → Bool
  | .recorded => true
  | .answered _ => true
  | _ => false

/-- The reply that the query has taken. -/
def reply? : Stage → Option Result
  | .answered reply => some reply
  | _ => none

theorem isCounted_of_isRecorded {stage : Stage} (h : stage.isRecorded = true) : stage.isCounted = true := by
  cases stage <;> first | rfl | cases h

end Stage

namespace St

/-- The commands of all queries, in the order in which they were called. -/
def commands (s : St) : List Command := s.queries.map (·.command)

/-- The number of the queries that have counted themselves. -/
def count (s : St) : Nat := s.queries.countP (·.stage.isCounted)

/-- The commands of the queries that have kept theirs. -/
def kept (s : St) : List Command := (s.queries.filter (·.stage.isRecorded)).map (·.command)

/-- The reply that a query has taken. -/
def reply? (s : St) (i : Nat) : Option Result := s.queries[i]?.bind (·.stage.reply?)

/-- The queued replies that queries took, each with the number of the query. -/
def handed (s : St) : List (Nat × Result) := Taking.handed s.takings

end St

variable {s s' : St}

/-- Putting something in the place of another is taking the one out and the other in. -/
theorem perm_set {α : Type} {l : List α} {i : Nat} {a : α} (hi : l[i]? = some a) (b : α) :
    l.Perm (a :: l.eraseIdx i) ∧ (l.set i b).Perm (b :: l.eraseIdx i) := by
  obtain ⟨hlt, rfl⟩ := List.getElem?_eq_some_iff.1 hi
  exact ⟨(List.getElem_cons_eraseIdx_perm hlt).symm, List.set_perm_cons_eraseIdx hlt b⟩

section Goes

variable {i : Nat} {c : Command} {old : Stage} (hi : s.queries[i]? = some ⟨c, old⟩) (new : Stage)
include hi

theorem count_goes : (s.goes i c new).count + old.isCounted.toNat = s.count + new.isCounted.toNat := by
  obtain ⟨hold, hnew⟩ := perm_set hi ⟨c, new⟩
  rw [St.count, St.goes, hnew.countP_eq, St.count, hold.countP_eq, List.countP_cons, List.countP_cons]
  cases old.isCounted <;> cases new.isCounted <;> simp

/-- The commands that the others have kept stay what they are. -/
theorem kept_goes : ∃ others, s.kept.Perm (if old.isRecorded then c :: others else others) ∧
    (s.goes i c new).kept.Perm (if new.isRecorded then c :: others else others) := by
  obtain ⟨hold, hnew⟩ := perm_set hi ⟨c, new⟩
  refine ⟨((s.queries.eraseIdx i).filter (·.stage.isRecorded)).map (·.command), ?_, ?_⟩
  · have hkept := (hold.filter (·.stage.isRecorded)).map (·.command)
    cases hr : old.isRecorded <;> simpa [St.kept, hr] using hkept
  · have hkept := (hnew.filter (·.stage.isRecorded)).map (·.command)
    cases hr : new.isRecorded <;> simpa [St.kept, St.goes, hr] using hkept

theorem commands_goes : (s.goes i c new).commands = s.commands := by
  obtain ⟨hlt, hget⟩ := List.getElem?_eq_some_iff.1 hi
  have hcommand : s.queries[i].command = c := by rw [hget]
  have hset : (s.queries.map (·.command)).set i s.queries[i].command = s.queries.map (·.command) := by
    rw [← List.map_set, List.set_getElem_self]
  rw [St.commands, St.goes, List.map_set, ← hcommand, hset, St.commands]

theorem reply?_goes : (s.goes i c new).reply? = Function.update s.reply? i new.reply? := by
  obtain ⟨hlt, -⟩ := List.getElem?_eq_some_iff.1 hi
  funext k
  by_cases hk : k = i
  · subst hk
    simp [St.reply?, St.goes, hlt]
  · simp [St.reply?, St.goes, hk, List.getElem?_set_ne (Ne.symm hk)]

end Goes

/-- A step leaves the replies of the queries alone, or gives one to a query that has none. -/
theorem step_reply (h : Step s s') :
    (s'.reply? = s.reply? ∧ s'.takings = s.takings) ∨
      ∃ i, s.reply? i = none ∧ s'.reply? = Function.update s.reply? i (some s.handle.pop.1) ∧
        s'.takings = s.takings ++ [⟨i, s.handle.replies, s.handle.pop.1⟩] := by
  have hkeep : ∀ {i c old}, s.queries[i]? = some ⟨c, old⟩ → ∀ new : Stage, old.reply? = none → new.reply? = none →
      (s.goes i c new).reply? = s.reply? := by
    intro i c old hi new hold hnew
    have hnone : s.reply? i = none := by rw [St.reply?, hi, Option.bind_some, hold]
    rw [reply?_goes hi, hnew, ← hnone, Function.update_eq_self]
  cases h with
  | call c =>
    refine .inl ⟨?_, rfl⟩
    funext k
    rcases Nat.lt_or_ge k s.queries.length with hk | hk
    · simp [St.reply?, St.called, List.getElem?_append_left hk]
    · -- the new query has taken nothing
      rw [St.reply?, St.reply?, St.called, List.getElem?_append_right hk, List.getElem?_eq_none hk]
      cases k - s.queries.length <;> rfl
  | push reply => exact .inl ⟨rfl, rfl⟩
  | count i c hi => exact .inl ⟨hkeep hi .counted rfl rfl, rfl⟩
  | record i c hi => exact .inl ⟨hkeep hi .recorded rfl rfl, rfl⟩
  | answer i c hi => exact .inr ⟨i, by rw [St.reply?, hi]; rfl, reply?_goes hi _, rfl⟩

/-! ## The invariant -/

/-- What holds between any two steps. -/
structure Inv (s : St) : Prop where
  queries : s.handle.queries = s.count
  commands : s.handle.commands.Perm (s.kept.map Command.texts)
  queued : s.queued = s.handed.map (·.2) ++ s.handle.replies
  taken : ∀ i reply, s.reply? i = some reply ↔ ∃ t ∈ s.takings, t.query = i ∧ t.reply = reply
  once : (s.takings.map (·.query)).Nodup
  turn : ∀ t ∈ s.takings, t.reply = t.left.head?.getD (.ok .ok)
  left : ∀ before t after, s.takings = before ++ t :: after →
    (Taking.handed before).map (·.2) ++ t.left <+: s.queued

theorem inv_init (d : Descriptor) : Inv { handle := .new d } where
  queries := rfl
  commands := .refl _
  queued := rfl
  taken := by simp [St.reply?]
  once := List.nodup_nil
  turn := by simp
  left := by simp

/-- The handle's count follows the queries that count themselves. -/
theorem count_step (h : Step s s') (hs : s.handle.queries = s.count) : s'.handle.queries = s'.count := by
  cases h with
  | call c => simp [St.called, St.count, hs, Stage.isCounted]
  | push reply => exact hs
  | count i c hi =>
    have hcount : (s.goes i c .counted).count = s.count + 1 := count_goes hi .counted
    show s.handle.queries + 1 = (s.goes i c .counted).count
    rw [hcount, hs]
  | record i c hi =>
    have hcount : (s.goes i c .recorded).count = s.count := Nat.add_right_cancel (count_goes hi .recorded)
    exact hs.trans hcount.symm
  | answer i c hi =>
    have hcount : (s.goes i c (.answered s.handle.pop.1)).count = s.count :=
      Nat.add_right_cancel (count_goes hi (.answered s.handle.pop.1))
    show s.handle.pop.2.queries = (s.goes i c (.answered s.handle.pop.1)).count
    rw [RecordingHandle.queries_pop, hcount, hs]

/-- The handle's commands follow the queries that keep theirs, in some order. -/
theorem commands_step (h : Step s s') (hs : s.handle.commands.Perm (s.kept.map Command.texts)) :
    s'.handle.commands.Perm (s'.kept.map Command.texts) := by
  have hsame : ∀ {i c old new}, s.queries[i]? = some ⟨c, old⟩ → old.isRecorded = new.isRecorded →
      s.handle.commands.Perm ((s.goes i c new).kept.map Command.texts) := by
    intro i c old new hi hrecorded
    obtain ⟨others, hold, hnew⟩ := kept_goes hi new
    rw [hrecorded] at hold
    exact hs.trans ((hold.trans hnew.symm).map _)
  cases h with
  | call c => simpa [St.called, St.kept, Stage.isRecorded] using hs
  | push reply => exact hs
  | count i c hi => exact hsame hi rfl
  | record i c hi =>
    obtain ⟨others, hold, hnew⟩ := kept_goes hi .recorded
    have hcons : (s.handle.commands ++ [c.texts]).Perm (c.texts :: s.handle.commands) :=
      List.perm_append_singleton ..
    exact (hcons.trans ((hs.trans (hold.map _)).cons _)).trans (hnew.map _).symm
  | answer i c hi =>
    show s.handle.pop.2.commands.Perm _
    rw [RecordingHandle.commands_pop]
    exact hsame hi rfl

/-- What was queued is what was handed out, and then what is left. -/
theorem queued_step (h : Step s s') (hs : s.queued = s.handed.map (·.2) ++ s.handle.replies) :
    s'.queued = s'.handed.map (·.2) ++ s'.handle.replies := by
  cases h with
  | push reply =>
    show s.queued ++ [reply] = s.handed.map (·.2) ++ (s.handle.replies ++ [reply])
    rw [hs, List.append_assoc]
  | answer i c hi =>
    show s.queued = ((s.takings ++ [_]).filterMap _).map _ ++ s.handle.pop.2.replies
    rw [hs, RecordingHandle.replies_pop, List.filterMap_append, List.map_append]
    cases s.handle.replies <;> simp [St.handed, Taking.handed]
  | _ => exact hs

theorem queued_prefix (h : Step s s') : s.queued <+: s'.queued := by
  cases h with
  | push reply => exact List.prefix_append ..
  | _ => exact List.prefix_rfl

theorem inv_step (s s' : St) (h : Step s s') (hs : Inv s) : Inv s' where
  queries := count_step h hs.queries
  commands := commands_step h hs.commands
  queued := queued_step h hs.queued
  taken := by
    intro i reply
    rcases step_reply h with ⟨hr, ht⟩ | ⟨k, hk, hr, ht⟩
    · rw [hr, ht]
      exact hs.taken i reply
    · -- the query that takes a reply now has taken none before
      have hnot : ∀ t ∈ s.takings, t.query ≠ k := by
        rintro t hmem rfl
        rw [(hs.taken t.query t.reply).2 ⟨t, hmem, rfl, rfl⟩] at hk
        cases hk
      rw [hr, ht]
      by_cases hi : i = k
      · subst hi
        simp only [Function.update_self, List.mem_append, List.mem_singleton]
        constructor
        · intro hreply
          exact ⟨_, .inr rfl, rfl, Option.some.inj hreply⟩
        · rintro ⟨t, hmem | rfl, hquery, hreply⟩
          · exact absurd hquery (hnot t hmem)
          · exact congrArg some hreply
      · rw [Function.update_of_ne hi, hs.taken]
        simp [Ne.symm hi]
  once := by
    rcases step_reply h with ⟨-, ht⟩ | ⟨k, hk, -, ht⟩
    · rw [ht]
      exact hs.once
    · rw [ht, List.map_append, List.nodup_append]
      refine ⟨hs.once, by simp, ?_⟩
      intro a ha b hb hab
      obtain ⟨t, hmem, rfl⟩ := List.mem_map.1 ha
      rw [List.mem_singleton.1 hb] at hab
      have hquery : t.query = k := hab
      rw [← hquery, (hs.taken t.query t.reply).2 ⟨t, hmem, rfl, rfl⟩] at hk
      cases hk
  turn := by
    rcases step_reply h with ⟨-, ht⟩ | ⟨k, -, -, ht⟩
    · rw [ht]
      exact hs.turn
    · intro t hmem
      rw [ht] at hmem
      rcases List.mem_append.1 hmem with hmem | hmem
      · exact hs.turn t hmem
      · rw [List.mem_singleton.1 hmem]
        exact s.handle.fst_pop
  left := by
    intro before t after hsplit
    have hgrow : s.queued <+: s'.queued := queued_prefix h
    rcases step_reply h with ⟨-, ht⟩ | ⟨k, -, -, ht⟩
    · rw [ht] at hsplit
      exact (hs.left before t after hsplit).trans hgrow
    · rw [ht] at hsplit
      rcases List.eq_nil_or_concat after with rfl | ⟨earlier, last, rfl⟩
      · -- what is left for the query that takes a reply now is what was not handed out before
        obtain ⟨rfl, hlast⟩ := List.append_inj' hsplit rfl
        cases hlast
        refine List.IsPrefix.trans ?_ hgrow
        rw [hs.queued]
        exact List.prefix_rfl
      · rw [List.concat_eq_append, ← List.cons_append, ← List.append_assoc] at hsplit
        obtain ⟨hearlier, -⟩ := List.append_inj' hsplit rfl
        exact (hs.left before t earlier hearlier).trans hgrow

theorem inv_of_reachable {d : Descriptor} (h : Reachable d s) : Inv s := h.invariant inv_step (inv_init d)

/-! ## Queries come to an end -/

namespace Stage

/-- The number of steps that a query has before it. -/
def ahead : Stage → Nat
  | .called => 3
  | .counted => 2
  | .recorded => 1
  | .answered _ => 0

end Stage

/-- The number of steps that the queries have before them. -/
def St.ahead (s : St) : Nat := (s.queries.map (·.stage.ahead)).sum

theorem ahead_goes {i : Nat} {c : Command} {old : Stage} (hi : s.queries[i]? = some ⟨c, old⟩) (new : Stage) :
    (s.goes i c new).ahead + old.ahead = s.ahead + new.ahead := by
  obtain ⟨hold, hnew⟩ := perm_set hi ⟨c, new⟩
  rw [St.ahead, St.goes, (hnew.map _).sum_nat, St.ahead, (hold.map _).sum_nat, List.map_cons, List.map_cons,
    List.sum_cons, List.sum_cons]
  show new.ahead + _ + old.ahead = old.ahead + _ + new.ahead
  omega

/-- A query that has taken no reply can go on, and nothing else changes but the handle. -/
theorem exists_step {i : Nat} {q : Query} (hi : s.queries[i]? = some q) (hq : q.stage.reply? = none) :
    ∃ s', Step s s' ∧ s'.commands = s.commands ∧ s'.queued = s.queued ∧ s'.ahead + 1 = s.ahead := by
  obtain ⟨c, stage⟩ := q
  cases stage with
  | called => exact ⟨_, .count s i c hi, commands_goes hi _, rfl, Nat.add_right_cancel (m := 2) (ahead_goes hi .counted)⟩
  | counted =>
    exact ⟨_, .record s i c hi, commands_goes hi _, rfl, Nat.add_right_cancel (m := 1) (ahead_goes hi .recorded)⟩
  | recorded => exact ⟨_, .answer s i c hi, commands_goes hi _, rfl, ahead_goes hi (.answered s.handle.pop.1)⟩
  | answered reply => cases hq

/-- All queries can come to their end, whatever they have done so far. -/
theorem run_finished (s : St) : ∃ s', Run Step s s' ∧ (∀ q ∈ s'.queries, q.stage.reply?.isSome) ∧
    s'.commands = s.commands ∧ s'.queued = s.queued := by
  -- by induction on the number of steps that all queries together have before them
  induction hn : s.ahead generalizing s with
  | zero =>
    refine ⟨s, .refl, ?_, rfl, rfl⟩
    intro q hq
    have hzero : q.stage.ahead = 0 := by
      have hall := List.sum_eq_zero_iff_forall_eq_nat.1 hn
      exact hall _ (List.mem_map_of_mem hq)
    cases hstage : q.stage <;> simp [hstage, Stage.ahead, Stage.reply?] at hzero ⊢
  | succ n ih =>
    by_cases hsome : ∃ q ∈ s.queries, q.stage.reply? = none
    · -- a query goes on, and then the others can
      obtain ⟨q, hq, hnone⟩ := hsome
      obtain ⟨i, hi⟩ := List.getElem?_of_mem hq
      obtain ⟨s₁, hstep, hcommands, hqueued, hahead⟩ := exists_step hi hnone
      obtain ⟨s₂, hrun, hanswered, hcommands₂, hqueued₂⟩ := ih s₁ (by omega)
      exact ⟨s₂, .head hstep hrun, hanswered, hcommands₂.trans hcommands, hqueued₂.trans hqueued⟩
    · refine ⟨s, .refl, ?_, rfl, rfl⟩
      intro q hq
      exact Option.isSome_iff_ne_none.2 fun hnone => hsome ⟨q, hq, hnone⟩

/-- A query that nobody comes between is `RecordingHandle.query`. -/
theorem run_query (s : St) (c : Command) : ∃ s', Run Step s s' ∧ s'.handle = (s.handle.query c).2 ∧
    s'.reply? s.queries.length = some (s.handle.query c).1 ∧ s'.queued = s.queued := by
  let i := s.queries.length
  have hcount : Step (s.called c) ((s.called c).counted i c) := .count _ i c (by simp [St.called, i])
  have hrecord : Step ((s.called c).counted i c) (((s.called c).counted i c).recorded i c) :=
    .record _ i c (by simp [St.called, St.counted, St.goes, i])
  have hanswer : Step (((s.called c).counted i c).recorded i c) ((((s.called c).counted i c).recorded i c).answered i c) :=
    .answer _ i c (by simp [St.called, St.counted, St.recorded, St.goes, i])
  refine ⟨_, (((Relation.ReflTransGen.single (.call s c)).tail hcount).tail hrecord).tail hanswer, rfl, ?_, rfl⟩
  simp [St.reply?, St.called, St.counted, St.recorded, St.answered, St.goes, i, Stage.reply?]
  rfl

/-! ## What users of the handle may rely on -/

/-- A reply that a query has taken stays its own. -/
theorem reply_of_run (h : Run Step s s') {i : Nat} {reply : Result} (hi : s.reply? i = some reply) :
    s'.reply? i = some reply := by
  have hkeep : ∀ s₁ s₂, Step s₁ s₂ → s₁.reply? i = some reply → s₂.reply? i = some reply := by
    intro s₁ s₂ hstep hs₁
    rcases step_reply hstep with ⟨hr, -⟩ | ⟨k, hk, hr, -⟩
    · rw [hr, hs₁]
    · have hne : i ≠ k := by
        rintro rfl
        rw [hk] at hs₁
        cases hs₁
      rw [hr, Function.update_of_ne hne, hs₁]
  exact h.invariant hkeep hi

theorem mem_handed {i : Nat} {reply : Result} :
    (i, reply) ∈ s.handed ↔ ∃ t ∈ s.takings, t.query = i ∧ t.left.head? = some reply := by
  simp only [St.handed, Taking.handed, List.mem_filterMap, Option.map_eq_some_iff, Prod.mk.injEq]
  constructor
  · rintro ⟨t, ht, r, hr, hi, rfl⟩
    exact ⟨t, ht, hi, hr⟩
  · rintro ⟨t, ht, hi, hr⟩
    exact ⟨t, ht, reply, hr, hi, rfl⟩

/-- The queries that took queued replies are some of those that took replies, in order. -/
theorem handed_sublist (takings : List Taking) :
    ((Taking.handed takings).map (·.1)).Sublist (takings.map (·.query)) := by
  induction takings with
  | nil => exact .slnil
  | cons t rest ih =>
    cases hleft : t.left with
    | nil => simpa [Taking.handed, hleft] using ih.cons t.query
    | cons reply left => simpa [Taking.handed, hleft] using ih.cons_cons t.query

/-- Every query that has counted itself has done so before it kept its command. -/
theorem length_commands_le (hs : Inv s) : s.handle.commands.length ≤ s.handle.queries := by
  rw [hs.commands.length_eq, hs.queries, List.length_map, St.kept, List.length_map, ← List.countP_eq_length_filter]
  exact List.countP_mono_left fun q _ hq => Stage.isCounted_of_isRecorded hq

/-- Once all queries have taken their replies, all of them have counted themselves and kept their commands. -/
theorem finished (hs : Inv s) (hall : ∀ q ∈ s.queries, q.stage.reply?.isSome) :
    s.handle.queries = s.queries.length ∧ s.handle.commands.Perm (s.commands.map Command.texts) := by
  have hrecorded : ∀ q ∈ s.queries, q.stage.isRecorded = true := by
    intro q hq
    have hanswered := hall q hq
    cases hstage : q.stage <;> simp [hstage, Stage.reply?, Stage.isRecorded] at hanswered ⊢
  have hcounted : ∀ q ∈ s.queries, q.stage.isCounted = true := fun q hq =>
    Stage.isCounted_of_isRecorded (hrecorded q hq)
  constructor
  · rw [hs.queries, St.count, List.countP_eq_length.2 hcounted]
  · have hkept : s.kept = s.commands := by rw [St.kept, List.filter_eq_self.2 hrecorded, St.commands]
    exact hkept ▸ hs.commands

/-- Whatever the order of the steps: what was queued is what queries took, in the order of their taking, and then what is
left; no query takes twice, and each keeps what it took; a query takes the oldest of the replies that no other took, and
is answered OK by the handle itself only if there is none; as many queries have counted themselves at least as have
kept their commands; all queries can come to their end; and then both are as many as the queries, and the commands are
those that were sent. The steps of a query that nobody comes between do what `RecordingHandle.query` does. -/
theorem replies_are_taken_in_turn {d : Descriptor} (hs : Reachable d s) :
    s.queued = s.handed.map (·.2) ++ s.handle.replies ∧
    (s.takings.map (·.query)).Nodup ∧ (s.handed.map (·.1)).Nodup ∧
    (∀ i reply, s.reply? i = some reply ↔ ∃ t ∈ s.takings, t.query = i ∧ t.reply = reply) ∧
    (∀ i reply, (i, reply) ∈ s.handed → s.reply? i = some reply) ∧
    (∀ before t after, s.takings = before ++ t :: after →
      (Taking.handed before).map (·.2) ++ t.left <+: s.queued ∧
      ((∃ rest, t.left = t.reply :: rest ∧ (t.query, t.reply) ∈ s.handed) ∨ t.left = [] ∧ t.reply = .ok .ok)) ∧
    (∀ s', Run Step s s' → ∀ i reply, s.reply? i = some reply → s'.reply? i = some reply) ∧
    s.handle.commands.length ≤ s.handle.queries ∧
    (∃ s', Run Step s s' ∧ (∀ q ∈ s'.queries, q.stage.reply?.isSome) ∧ s'.commands = s.commands ∧
      s'.queued = s.queued) ∧
    ((∀ q ∈ s.queries, q.stage.reply?.isSome) → s.handle.queries = s.queries.length ∧
      s.handle.commands.length = s.queries.length ∧ s.handle.commands.Perm (s.commands.map Command.texts)) ∧
    ∀ c, ∃ s', Run Step s s' ∧ s'.handle = (s.handle.query c).2 ∧
      s'.reply? s.queries.length = some (s.handle.query c).1 ∧ s'.queued = s.queued := by
  have hinv := inv_of_reachable hs
  refine ⟨hinv.queued, hinv.once, hinv.once.sublist (handed_sublist s.takings), hinv.taken, ?_, ?_,
    fun s' h i reply => reply_of_run h, length_commands_le hinv, run_finished s, ?_, run_query s⟩
  · intro i reply hmem
    obtain ⟨t, ht, rfl, hleft⟩ := mem_handed.1 hmem
    refine (hinv.taken t.query reply).2 ⟨t, ht, rfl, ?_⟩
    rw [hinv.turn t ht, hleft, Option.getD_some]
  · intro before t after hsplit
    have ht : t ∈ s.takings := by rw [hsplit]; simp
    have hturn := hinv.turn t ht
    refine ⟨hinv.left before t after hsplit, ?_⟩
    cases hleft : t.left with
    | nil =>
      rw [hleft] at hturn
      exact .inr ⟨rfl, hturn⟩
    | cons reply rest =>
      rw [hleft] at hturn
      refine .inl ⟨rest, by rw [hturn]; rfl, mem_handed.2 ⟨t, ht, rfl, ?_⟩⟩
      rw [hleft, hturn]
      rfl
  · intro hall
    obtain ⟨hqueries, hcommands⟩ := finished hinv hall
    refine ⟨hqueries, ?_, hcommands⟩
    rw [hcommands.length_eq, List.length_map, St.commands, List.length_map]

/-- A query that was called first keeps its command last, and takes the one reply that was queued; the other is
answered OK. -/
theorem replies_are_taken_in_turn_when_overtaken : ∃ s, Reachable ascending s ∧
    s.handle.commands = [(Call.get "a").command.texts, Call.ping.command.texts] ∧ s.handle.queries = 2 ∧
    s.reply? 0 = some (.error .lostConnection) ∧ s.reply? 1 = some (.ok .ok) ∧ s.handle.replies = [] ∧
    s.queued = s.handed.map (·.2) ++ s.handle.replies := by
  have hrun : Run Step { handle := .new ascending } _ :=
    (((((((((Relation.ReflTransGen.single
      (.call _ Call.ping.command)).tail
      (.call _ (Call.get "a").command)).tail
      (.count _ 1 _ rfl)).tail
      (.push _ (.error .lostConnection))).tail
      (.count _ 0 _ rfl)).tail
      (.record _ 1 _ rfl)).tail
      (.record _ 0 _ rfl)).tail
      (.answer _ 0 _ rfl)).tail
      (.answer _ 1 _ rfl))
  exact ⟨_, hrun, rfl, rfl, rfl, rfl, rfl, (replies_are_taken_in_turn hrun).1⟩

end SharedRecording

end Tether

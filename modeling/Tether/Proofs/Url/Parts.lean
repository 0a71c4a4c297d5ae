import Tether.Proofs.Text.Split
import Tether.Url.Basic

namespace Tether

/-! # How the parts of a URL stand in its text

Only what a part holds decides how it is read: an authority is read without what stands behind it
(`Url.withAuthority?_eq`), and all that stands before a question mark is read without the query and fragment behind it
(`Url.ofClean?_query`).
-/

namespace Url

/-! ## The characters that count -/

/-- What counts of the beginning of a URL. -/
def cleanStart (cs : List Char) : List Char := (cs.dropWhile isMargin).filter (!isIgnored ·)

/-- What counts of the end of a URL. -/
def cleanEnd (cs : List Char) : List Char := (cs.reverse.dropWhile isMargin).reverse.filter (!isIgnored ·)

theorem takeWhile_append_cons {f : Char → Bool} {c : Char} (hc : f c = false) (xs ys : List Char) :
    (xs ++ c :: ys).takeWhile f = xs.takeWhile f := by
  induction xs with
  | nil => simp [hc]
  | cons d r ih => simp [List.takeWhile_cons, ih]

theorem dropWhile_append_cons {f : Char → Bool} {c : Char} (hc : f c = false) (xs ys : List Char) :
    (xs ++ c :: ys).dropWhile f = xs.dropWhile f ++ c :: ys := by
  induction xs with
  | nil => simp [hc]
  | cons d r ih =>
    rw [List.cons_append, List.dropWhile_cons, List.dropWhile_cons, ih]
    split <;> rfl

/-! ## The scheme -/

/-- The scheme of a URL ends at the first colon. -/
theorem takeScheme?_append_colon {scheme : List Char} (h : ':' ∉ scheme) (rest : List Char) :
    takeScheme? (scheme ++ ':' :: rest) = (takeScheme? (scheme ++ [':'])).map fun s => (s.1, rest) := by
  have hcolon : isSchemeChar ':' = false := by decide
  cases scheme with
  | nil => rfl
  | cons c r =>
    unfold takeScheme?
    simp only [List.cons_append]
    split
    · rfl
    · rw [← List.cons_append, ← List.cons_append, dropWhile_append_cons hcolon, dropWhile_append_cons hcolon,
        takeWhile_append_cons hcolon, takeWhile_append_cons hcolon]
      cases hdrop : (c :: r).dropWhile isSchemeChar with
      | nil => rfl
      | cons d others =>
        have hd : d ≠ ':' := by
          rintro rfl
          exact h ((List.dropWhile_suffix _).subset (hdrop ▸ List.mem_cons_self))
        simp [hd]

/-- No scheme reaches over a question mark. -/
theorem takeScheme?_append_query (start z : List Char) :
    takeScheme? (start ++ '?' :: z) = (takeScheme? start).map fun s => (s.1, s.2 ++ '?' :: z) := by
  have hquery : isSchemeChar '?' = false := by decide
  cases start with
  | nil => rfl
  | cons c r =>
    unfold takeScheme?
    simp only [List.cons_append]
    split
    · rfl
    · rw [← List.cons_append, dropWhile_append_cons hquery, takeWhile_append_cons hquery]
      cases (c :: r).dropWhile isSchemeChar with
      | nil => rfl
      | cons d rest =>
        by_cases hd : d = ':'
        · simp [hd]
        · simp [hd]

theorem mem_of_mem_takeScheme? {start : List Char} {s : String × List Char} (h : takeScheme? start = some s) {c : Char}
    (hc : c ∈ s.2) : c ∈ start := by
  unfold takeScheme? at h
  split at h
  · cases h
  · split at h
    · cases h
    · split at h
      · next hdrop =>
        cases h
        exact (List.dropWhile_suffix _).subset (hdrop ▸ List.mem_cons_of_mem _ hc)
      · cases h

/-- What stands before the colon is the scheme, in lower case. -/
theorem fst_of_takeScheme? {scheme : List Char} (h : ':' ∉ scheme) {s : String × List Char}
    (hs : takeScheme? (scheme ++ [':']) = some s) : s.1 = String.ofList (scheme.map Char.toLower) := by
  have hcolon : isSchemeChar ':' = false := by decide
  cases scheme with
  | nil => cases hs
  | cons c r =>
    unfold takeScheme? at hs
    simp only [List.cons_append] at hs
    rw [← List.cons_append, dropWhile_append_cons hcolon, takeWhile_append_cons hcolon] at hs
    split at hs
    · cases hs
    · cases hdrop : (c :: r).dropWhile isSchemeChar with
      | nil =>
        have htake : (c :: r).takeWhile isSchemeChar = c :: r := by
          have happend := List.takeWhile_append_dropWhile (p := isSchemeChar) (l := c :: r)
          rwa [hdrop, List.append_nil] at happend
        rw [hdrop, htake] at hs
        cases hs
        rfl
      | cons d others =>
        have hd : d ≠ ':' := by
          rintro rfl
          exact h ((List.dropWhile_suffix _).subset (hdrop ▸ List.mem_cons_self))
        simp [hdrop, hd] at hs

/-! ## The authority -/

/-- What an authority says, and the beginning of a path that may stand in it. -/
structure Authority where
  username : List Char
  password : Option (List Char)
  host : Option UrlHost
  port : Option UInt16
  pathStart : List Char

/-- The URL of an authority and what stands behind it. -/
def Authority.url (a : Authority) (scheme : String) (tail : List Char) : Url :=
  let (beforeFragment, fragment) := takeFragment (a.pathStart ++ tail)
  let (path, query) := takeQuery beforeFragment
  ⟨scheme, a.username, a.password, a.host, a.port, pathAfterAuthority path, query, fragment⟩

/-- Reads user information and the text of a node. -/
def authorityOf? (info node : List Char) : Option Authority :=
  (host? (spanHost false node).1).bind fun host =>
    if host.isNone ∧ (!(spanHost false node).2.isEmpty ∨ !(credentials info).1.isEmpty ∨ (credentials info).2.isSome)
    then none
    else (port? (spanHost false node).2).map fun r => ⟨(credentials info).1, (credentials info).2, host, r.1, r.2⟩

/-- Reads an authority, and whether anything stands behind it. -/
def authority? (cs : List Char) (isLast : Bool) : Option Authority :=
  let p := (Split.atLast? '@' cs).getD ([], cs)
  if (Split.atLast? '@' cs).isSome ∧ p.1.isEmpty ∧ p.2.isEmpty ∧ !isLast then none else authorityOf? p.1 p.2

theorem withAuthority?_eq (scheme : String) (cs : List Char) :
    withAuthority? scheme cs =
      (authority? (cs.takeWhile (!endsAuthority ·)) (cs.dropWhile (!endsAuthority ·)).isEmpty).map fun a =>
        a.url scheme (cs.dropWhile (!endsAuthority ·)) := by
  unfold withAuthority? authority?
  generalize cs.takeWhile (!endsAuthority ·) = authority
  generalize cs.dropWhile (!endsAuthority ·) = tail
  dsimp only
  generalize (Split.atLast? '@' authority).getD ([], authority) = p
  obtain ⟨info, node⟩ := p
  dsimp only
  split
  · rfl
  · unfold authorityOf?
    cases host? (spanHost false node).1 with
    | none => rfl
    | some host =>
      simp only [Option.bind_some, Option.bind_eq_bind]
      split
      · rfl
      · cases port? (spanHost false node).2 with
        | none => rfl
        | some r => rfl

theorem scheme_of_withAuthority? {scheme : String} {cs : List Char} {u : Url} (h : withAuthority? scheme cs = some u) :
    u.scheme = scheme := by
  rw [withAuthority?_eq] at h
  obtain ⟨a, -, rfl⟩ := Option.map_eq_some_iff.1 h
  rfl

theorem mem_of_mem_spanHost {c : Char} {bracketed : Bool} {cs : List Char} (h : c ∈ (spanHost bracketed cs).2) :
    c ∈ cs := by
  fun_induction spanHost bracketed cs with
  | case1 => exact h
  | case2 => exact h
  | case3 bracketed d r _ host rest hr ih =>
    rw [hr] at ih
    exact List.mem_cons_of_mem d (ih h)

theorem mem_of_mem_port? {c : Char} {cs : List Char} {r : Option UInt16 × List Char} (h : port? cs = some r)
    (hc : c ∈ r.2) : c ∈ cs := by
  unfold port? at h
  split at h
  · next digits =>
    have hdrop : ∀ rest, r.2 = rest → rest = digits.dropWhile Char.isDigit → c ∈ ':' :: digits := by
      rintro rest rfl hrest
      exact List.mem_cons_of_mem _ ((List.dropWhile_suffix Char.isDigit).subset (hrest ▸ hc))
    dsimp only at h
    split at h
    · cases h
    · split at h
      · cases h
        exact hdrop _ rfl rfl
      · obtain ⟨n, -, rfl⟩ := Option.map_eq_some_iff.1 h
        exact hdrop _ rfl rfl
  · cases h
    exact hc

/-- The beginning of a path in an authority is a part of it. -/
theorem mem_of_mem_pathStart {c : Char} {cs : List Char} {isLast : Bool} {a : Authority}
    (h : authority? cs isLast = some a) (hc : c ∈ a.pathStart) : c ∈ cs := by
  have hnode : ∀ d ∈ ((Split.atLast? '@' cs).getD ([], cs)).2, d ∈ cs := by
    intro d hd
    cases hat : Split.atLast? '@' cs with
    | none => simpa [hat] using hd
    | some p =>
      rw [Split.atLast?_eq_some hat]
      simp [show d ∈ p.2 by simpa [hat] using hd]
  unfold authority? at h
  dsimp only at h
  split at h
  · cases h
  · unfold authorityOf? at h
    obtain ⟨host, -, h⟩ := Option.bind_eq_some_iff.1 h
    split at h
    · cases h
    · obtain ⟨r, hr, rfl⟩ := Option.map_eq_some_iff.1 h
      exact hnode c (mem_of_mem_spanHost (mem_of_mem_port? hr hc))

/-! ## Query and fragment -/

theorem takeFragment_append {before : List Char} (h : '#' ∉ before) (after : List Char) :
    takeFragment (before ++ after) = (before ++ (takeFragment after).1, (takeFragment after).2) := by
  induction before with
  | nil => rfl
  | cons c r ih =>
    have hc : c ≠ '#' := fun hc => h (by simp [hc])
    have hr := ih fun hm => h (List.mem_cons_of_mem c hm)
    revert hr
    simp only [takeFragment, List.cons_append, Split.atFirst?, hc, if_false]
    cases Split.atFirst? '#' (r ++ after) <;> cases Split.atFirst? '#' after <;> simp

theorem takeQuery_append {before : List Char} (h : '?' ∉ before) (after : List Char) :
    takeQuery (before ++ '?' :: after) = (before, some after) := by
  simp [takeQuery, Split.atFirst?_append h]

/-- Takes the query and the fragment of a URL from the text behind its question mark. -/
def setQuery (z : List Char) (u : Url) : Url :=
  { u with query := some (takeFragment z).1, fragment := (takeFragment z).2 }

/-- Behind a question mark, query and fragment follow each on their own. -/
theorem takeQuery_takeFragment {cs : List Char} (h : ∀ c ∈ cs, c ≠ '?' ∧ c ≠ '#') (z : List Char) :
    takeFragment (cs ++ '?' :: z) = (cs ++ '?' :: (takeFragment z).1, (takeFragment z).2) ∧
      takeQuery (cs ++ '?' :: (takeFragment z).1) = (cs, some (takeFragment z).1) := by
  have hquery : '?' ∉ cs := fun hm => (h _ hm).1 rfl
  have hfragment : '#' ∉ cs ++ ['?'] := by
    intro hm
    rcases List.mem_append.1 hm with hm | hm
    · exact (h _ hm).2 rfl
    · simp at hm
  refine ⟨?_, takeQuery_append hquery _⟩
  have hcut := takeFragment_append hfragment z
  simpa using hcut

theorem withoutAuthority_query (scheme : String) {cs : List Char} (h : ∀ c ∈ cs, c ≠ '?' ∧ c ≠ '#') (z : List Char) :
    withoutAuthority scheme (cs ++ '?' :: z) = setQuery z (withoutAuthority scheme (cs ++ ['?'])) := by
  simp [withoutAuthority, takeQuery_takeFragment h, setQuery]

theorem withAuthority?_query (scheme : String) {cs : List Char} (h : ∀ c ∈ cs, c ≠ '?' ∧ c ≠ '#') (z : List Char) :
    withAuthority? scheme (cs ++ '?' :: z) = (withAuthority? scheme (cs ++ ['?'])).map (setQuery z) := by
  have hcut : ∀ z, (cs ++ '?' :: z).takeWhile (!endsAuthority ·) = cs.takeWhile (!endsAuthority ·) ∧
      (cs ++ '?' :: z).dropWhile (!endsAuthority ·) = cs.dropWhile (!endsAuthority ·) ++ '?' :: z :=
    fun z => ⟨takeWhile_append_cons rfl cs z, dropWhile_append_cons rfl cs z⟩
  rw [withAuthority?_eq, withAuthority?_eq]
  simp only [hcut, Option.map_map]
  have hempty : ∀ z, (cs.dropWhile (!endsAuthority ·) ++ '?' :: z).isEmpty = false := by simp
  rw [hempty, hempty]
  refine Option.map_congr ?_
  intro a ha
  have hpath : ∀ c ∈ a.pathStart ++ cs.dropWhile (!endsAuthority ·), c ≠ '?' ∧ c ≠ '#' := by
    intro c hc
    rcases List.mem_append.1 hc with hc | hc
    · exact h c ((List.takeWhile_prefix _).subset (mem_of_mem_pathStart ha hc))
    · exact h c ((List.dropWhile_suffix _).subset hc)
  simp only [Authority.url, Function.comp_apply, setQuery, ← List.append_assoc, takeQuery_takeFragment hpath]

/-- The URL that the characters that count spell. -/
def ofClean? (cs : List Char) : Option Url := do
  let (scheme, rest) ← takeScheme? cs
  match rest with
  | '/' :: '/' :: cs => withAuthority? scheme cs
  | cs => pure (withoutAuthority scheme cs)

theorem ofText?_eq (text : String) : ofText? text = ofClean? (clean text.toList) := rfl

theorem scheme_of_ofClean? {scheme : List Char} (h : ':' ∉ scheme) {rest : List Char} {u : Url}
    (hu : ofClean? (scheme ++ ':' :: rest) = some u) : u.scheme = String.ofList (scheme.map Char.toLower) := by
  unfold ofClean? at hu
  rw [takeScheme?_append_colon h] at hu
  cases hs : takeScheme? (scheme ++ [':']) with
  | none =>
    rw [hs] at hu
    cases hu
  | some s =>
    rw [hs] at hu
    rw [← fst_of_takeScheme? h hs]
    simp only [Option.map_some, Option.bind_some, Option.bind_eq_bind] at hu
    split at hu
    · exact scheme_of_withAuthority? hu
    · cases hu
      rfl

/-- What stands before the question mark does not depend on what stands behind it. -/
theorem ofClean?_query {start : List Char} (h : ∀ c ∈ start, c ≠ '?' ∧ c ≠ '#') (z : List Char) :
    ofClean? (start ++ '?' :: z) = (ofClean? (start ++ ['?'])).map (setQuery z) := by
  unfold ofClean?
  rw [takeScheme?_append_query, takeScheme?_append_query]
  cases hscheme : takeScheme? start with
  | none => rfl
  | some s =>
    obtain ⟨scheme, rest⟩ := s
    have hrest : ∀ c ∈ rest, c ≠ '?' ∧ c ≠ '#' := fun c hc => h c (mem_of_mem_takeScheme? hscheme hc)
    have halone := withoutAuthority_query scheme hrest z
    simp only [Option.map_some, Option.bind_some, Option.bind_eq_bind]
    by_cases hslashes : ∃ cs, rest = '/' :: '/' :: cs
    · obtain ⟨cs, rfl⟩ := hslashes
      exact withAuthority?_query scheme (fun c hc => hrest c (by simp [hc])) z
    · -- two slashes cannot come about through a question mark
      have hnone : ∀ z cs, rest ++ '?' :: z ≠ '/' :: '/' :: cs := by
        intro z cs heq
        match rest with
        | [] => simp at heq
        | [c] => simp at heq
        | c :: d :: r =>
          simp only [List.cons_append, List.cons.injEq] at heq
          exact hslashes ⟨r, by rw [heq.1, heq.2.1]⟩
      split
      · next heq => exact absurd heq (hnone z _)
      · split
        · next heq => exact absurd heq (hnone [] _)
        · rw [halone]
          rfl

end Url

end Tether

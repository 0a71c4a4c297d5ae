import Tether.Node
import Tether.Proofs.Text.Utf8
import Tether.Proofs.Url.Parts

namespace Tether

/-! # Where a URL has its password

The password of a URL stands behind the user name, or, in the URL of a socket, in its query. With another password of
letters and digits in its place a URL is cut at the same characters and read as the same parts, the password apart
(`Url.ofClean?_alike`). So it names the same node, or is refused for the same fault (`Url.node_alike`).
-/

/-- The node with its password made unrecognizable. -/
def Node.masked (n : Node) : Node := { n with password := n.password.map fun _ => "" }

/-! ## Plain passwords -/

namespace Percent

/-- Bytes without a percent sign stand for themselves. -/
theorem decode_of_notMem {bs : Bytes} (h : 0x25 ∉ bs) : decode bs = bs := by
  fun_induction decode bs with
  | case1 => rfl
  | case2 a => rfl
  | case3 a b => rfl
  | case4 => simp at h
  | case5 => simp at h
  | case6 a b c r ha ih => rw [ih fun hm => h (List.mem_cons_of_mem _ hm)]

end Percent

namespace Url

/-- A password of letters and digits. -/
structure IsPlain (p : List Char) : Prop where
  ne_nil : p ≠ []
  isAlphanum : ∀ c ∈ p, c.isAlphanum = true

instance (p : List Char) : Decidable (IsPlain p) :=
  decidable_of_iff (p ≠ [] ∧ p.all Char.isAlphanum = true)
    ⟨fun h => ⟨h.1, List.all_eq_true.1 h.2⟩, fun h => ⟨h.ne_nil, List.all_eq_true.2 h.isAlphanum⟩⟩

variable {p q : List Char}

theorem bounds_of_isAlphanum {c : Char} (h : c.isAlphanum = true) : 0x30 ≤ c.toNat ∧ c.toNat < 0x7B := by
  have hc : c.toNat = c.val.toNat := rfl
  have hupper : c.isUpper = decide (c.val ≥ 65 ∧ c.val ≤ 90) := rfl
  have hlower : c.isLower = (decide (c.val ≥ 97) && decide (c.val ≤ 122)) := rfl
  have hdigit : c.isDigit = (decide (c.val ≥ 48) && decide (c.val ≤ 57)) := rfl
  have hclass : c.isAlphanum = (c.isUpper || c.isLower || c.isDigit) := rfl
  simp only [hclass, hupper, hlower, hdigit, Bool.or_eq_true, Bool.and_eq_true, decide_eq_true_eq,
    UInt32.le_iff_toNat_le, ge_iff_le, UInt32.reduceToNat] at h
  omega

namespace IsPlain

theorem notMem (hp : IsPlain p) {c : Char} (hc : c.isAlphanum = false) : c ∉ p := by
  intro hm
  rw [hp.isAlphanum c hm] at hc
  cases hc

/-- No character of a plain password is left out of a URL. -/
theorem counts (hp : IsPlain p) : ∀ c ∈ p, isMargin c = false ∧ isIgnored c = false := by
  intro c hc
  have hbounds := bounds_of_isAlphanum (hp.isAlphanum c hc)
  constructor
  · simp only [isMargin, decide_eq_false_iff_not]
    omega
  · have hne : ∀ d : Char, d.isAlphanum = false → c ≠ d := by
      rintro d hd rfl
      exact hp.notMem hd hc
    simp [isIgnored, hne '\t' rfl, hne '\n' rfl, hne '\r' rfl]

theorem endsAuthority (hp : IsPlain p) : ∀ c ∈ p, Url.endsAuthority c = false := by
  intro c hc
  have hne : ∀ d : Char, d.isAlphanum = false → c ≠ d := by
    rintro d hd rfl
    exact hp.notMem hd hc
  simp [Url.endsAuthority, hne '/' rfl, hne '?' rfl, hne '#' rfl]

/-- A plain password has no escapes. -/
theorem decoded (hp : IsPlain p) (fault : UrlFault) : Url.decoded fault p = .ok (String.ofList p) := by
  have hpercent : 0x25 ∉ Utf8.encode (String.ofList p) := by
    intro hm
    rw [Utf8.encode, String.toList_ofList, List.mem_flatMap] at hm
    obtain ⟨c, hc, hb⟩ := hm
    have hbounds := bounds_of_isAlphanum (hp.isAlphanum c hc)
    have hval : c.val.toNat = c.toNat := rfl
    have hbyte : String.utf8EncodeChar c = [UInt8.ofNat c.toNat] := by
      unfold String.utf8EncodeChar
      rw [if_pos (by omega), hval]
    rw [hbyte, List.mem_singleton] at hb
    have hnat := congrArg UInt8.toNat hb
    rw [UInt8.toNat_ofNat_of_lt' (by simp only [UInt8.size]; omega)] at hnat
    change 0x25 = _ at hnat
    omega
  rw [Url.decoded, Percent.decode_of_notMem hpercent, Utf8.decode?_encode]

end IsPlain

/-- Blanks around a URL do not reach into a password in it. -/
theorem clean_append (hp : IsPlain p) (before after : List Char) :
    clean (before ++ p ++ after) = cleanStart before ++ p ++ cleanEnd after := by
  have hsame : p.filter (!isIgnored ·) = p := by
    rw [List.filter_eq_self]
    intro c hc
    simp [(hp.counts c hc).2]
  have hfirst : (before ++ (p ++ after)).dropWhile isMargin = before.dropWhile isMargin ++ (p ++ after) := by
    cases p with
    | nil => exact absurd rfl hp.ne_nil
    | cons c r => exact dropWhile_append_cons (hp.counts c List.mem_cons_self).1 _ _
  have hlast : ∀ xs : List Char, (after.reverse ++ (p.reverse ++ xs)).dropWhile isMargin =
      after.reverse.dropWhile isMargin ++ (p.reverse ++ xs) := by
    intro xs
    cases hr : p.reverse with
    | nil => exact absurd (List.reverse_eq_nil_iff.1 hr) hp.ne_nil
    | cons c r =>
      have hc : c ∈ p := List.mem_reverse.1 (hr ▸ List.mem_cons_self)
      exact dropWhile_append_cons (hp.counts c hc).1 _ _
  rw [clean, List.append_assoc, hfirst, List.reverse_append, List.reverse_append, List.append_assoc, hlast]
  simp [cleanStart, cleanEnd, hsame]

/-! ## The places for a password -/

/-- What stands before and after a password in the characters of a URL that count: it is behind the first colon and
before the last `@` of an authority, or the value of a parameter `pass` of the query. Behind a scheme that the store does
not know, and that may have rules of its own, it is anywhere. -/
inductive PasswordPlace : List Char → List Char → Prop where
  | userinfo {scheme name node rest : List Char} (hscheme : ':' ∉ scheme) (hname : ':' ∉ name) (hnode : '@' ∉ node)
      (hauthority : (name ++ node).any endsAuthority = false) (hrest : rest.head?.all endsAuthority = true) :
      PasswordPlace (scheme ++ ':' :: '/' :: '/' :: (name ++ [':'])) ('@' :: (node ++ rest))
  | parameter {start earlier key later : List Char} (hstart : '?' ∉ start ∧ '#' ∉ start)
      (hearlier : '#' ∉ earlier ∧ earlier.getLast?.all (· = '&') = true) (hkey : '&' ∉ key ∧ '=' ∉ key ∧ '#' ∉ key)
      (hpass : Percent.formText key = "pass") (hlater : later.head?.all (fun c => c = '&' || c = '#') = true) :
      PasswordPlace (start ++ '?' :: (earlier ++ key ++ ['='])) later
  | foreign {scheme start rest : List Char} (hscheme : ':' ∉ scheme)
      (hforeign : String.ofList (scheme.map Char.toLower) ∉ nodeSchemes ++ socketSchemes) :
      PasswordPlace (scheme ++ ':' :: start) rest

/-- The same URL but for its password. -/
structure SameButPassword (u v : Url) : Prop where
  scheme : u.scheme = v.scheme
  username : u.username = v.username
  host : u.host = v.host
  port : u.port = v.port
  path : u.path = v.path
  fragment : u.fragment = v.fragment
  password : u.password = v.password ∨ ∃ p q, IsPlain p ∧ IsPlain q ∧ u.password = some p ∧ v.password = some q
  parameter? : ∀ name, name ≠ "pass" → u.parameter? name = v.parameter? name

/-- What two texts spell is the same URL but for its password, or on both sides nothing that the store knows. -/
inductive SpelledAlike : Option Url → Option Url → Prop where
  | same {u v : Url} (h : SameButPassword u v) : SpelledAlike (some u) (some v)
  | foreign {x y : Option Url} (hx : ∀ u, x = some u → u.scheme ∉ nodeSchemes ++ socketSchemes)
      (hy : ∀ u, y = some u → u.scheme ∉ nodeSchemes ++ socketSchemes) : SpelledAlike x y

theorem SpelledAlike.none : SpelledAlike none none := .foreign nofun nofun

/-! ### Behind the user name -/

/-- An authority with a plain password is taken apart around it. -/
theorem authority?_userinfo {name node : List Char} (hname : ':' ∉ name) (hnode : '@' ∉ node) (hp : IsPlain p)
    (isLast : Bool) : authority? (name ++ ':' :: (p ++ '@' :: node)) isLast =
      (authorityOf? (name ++ ':' :: ['x']) node).map fun a => { a with password := some p } := by
  have hat : Split.atLast? '@' (name ++ ':' :: (p ++ '@' :: node)) = some (name ++ ':' :: p, node) := by
    rw [show name ++ ':' :: (p ++ '@' :: node) = (name ++ ':' :: p) ++ '@' :: node by simp, Split.atLast?_append hnode]
  -- an empty password would be none at all, so `x` stands for any other
  have hcredentials : ∀ p, p ≠ [] → credentials (name ++ ':' :: p) = (name, some p) := by
    intro p hp
    simp [credentials, Split.atFirst?_append hname, hp]
  unfold authority?
  rw [hat]
  simp only [Option.getD_some]
  rw [if_neg (by simp)]
  unfold authorityOf?
  rw [hcredentials p hp.ne_nil, hcredentials ['x'] (List.cons_ne_nil _ _)]
  cases host? (spanHost false node).1 with
  | none => rfl
  | some host =>
    simp only [Option.bind_some, Option.isSome_some, or_true, and_true]
    split
    · rfl
    · simp [Function.comp_def]

theorem withAuthority?_userinfo (scheme : String) {name node rest : List Char} (hname : ':' ∉ name) (hnode : '@' ∉ node)
    (hauthority : (name ++ node).any endsAuthority = false) (hrest : rest.head?.all endsAuthority = true)
    (hp : IsPlain p) : withAuthority? scheme (name ++ ':' :: (p ++ '@' :: (node ++ rest))) =
      (authorityOf? (name ++ ':' :: ['x']) node).map fun a => { a with password := some p }.url scheme rest := by
  have hends : (∀ c ∈ name, endsAuthority c = false) ∧ ∀ c ∈ node, endsAuthority c = false := by simpa using hauthority
  have hall : ∀ c ∈ name ++ ':' :: (p ++ '@' :: node), (!endsAuthority c) = true := by
    intro c hc
    simp only [List.mem_append, List.mem_cons] at hc
    rcases hc with hc | rfl | hc | rfl | hc
    · simp [hends.1 c hc]
    · rfl
    · simp [hp.endsAuthority c hc]
    · rfl
    · simp [hends.2 c hc]
  have htail : rest.takeWhile (!endsAuthority ·) = [] ∧ rest.dropWhile (!endsAuthority ·) = rest := by
    cases rest with
    | nil => exact ⟨rfl, rfl⟩
    | cons c r =>
      have hc : endsAuthority c = true := hrest
      simp [hc]
  have hwhole : name ++ ':' :: (p ++ '@' :: (node ++ rest)) = (name ++ ':' :: (p ++ '@' :: node)) ++ rest := by simp
  rw [hwhole, withAuthority?_eq, List.takeWhile_append_of_pos hall, List.dropWhile_append_of_pos hall, htail.1, htail.2,
    List.append_nil, authority?_userinfo hname hnode hp, Option.map_map]
  rfl

/-! ### In the query -/

/-- The values given for a name in the query. -/
def valuesOf (name : String) (query : List Char) : List String :=
  ((Split.parts '&' query).filter (!·.isEmpty)).filterMap fun pair =>
    let (key, value) := (Split.atFirst? '=' pair).getD (pair, [])
    if Percent.formText key = name then some (Percent.formText value) else none

theorem parameter?_eq (u : Url) (name : String) : u.parameter? name = (valuesOf name (u.query.getD [])).getLast? := rfl

theorem valuesOf_append (name : String) (x y : List Char) :
    valuesOf name (x ++ '&' :: y) = valuesOf name x ++ valuesOf name y := by
  simp [valuesOf, Split.parts_append]

/-- The value of one parameter is none of another's. -/
theorem valuesOf_pair {name : String} {key value : List Char} (hkey : '&' ∉ key ∧ '=' ∉ key)
    (hvalue : '&' ∉ value) (hname : Percent.formText key ≠ name) : valuesOf name (key ++ '=' :: value) = [] := by
  have hamp : '&' ∉ key ++ '=' :: value := by
    intro hm
    simp only [List.mem_append, List.mem_cons] at hm
    rcases hm with hm | hm | hm
    · exact hkey.1 hm
    · cases hm
    · exact hvalue hm
  simp [valuesOf, Split.parts_of_notMem hamp, Split.atFirst?_append hkey.2, hname]

/-- The other parameters are the same for any value of one. -/
theorem valuesOf_around {name : String} {earlier key value later : List Char}
    (hearlier : earlier.getLast?.all (· = '&') = true) (hkey : '&' ∉ key ∧ '=' ∉ key) (hvalue : '&' ∉ value)
    (hname : Percent.formText key ≠ name) (hlater : later.head?.all (· = '&') = true) :
    valuesOf name (earlier ++ (key ++ '=' :: value) ++ later) = valuesOf name earlier ++ valuesOf name later := by
  have hempty : valuesOf name [] = [] := rfl
  have hpair := valuesOf_pair hkey hvalue hname
  have hstart : valuesOf name (earlier ++ (key ++ '=' :: value)) = valuesOf name earlier := by
    rcases List.eq_nil_or_concat earlier with rfl | ⟨e, c, rfl⟩
    · exact hpair
    · obtain rfl : c = '&' := by simpa using hearlier
      rw [List.concat_eq_append, List.append_assoc, List.singleton_append, valuesOf_append, valuesOf_append, hpair,
        hempty]
  cases later with
  | nil => rw [List.append_nil, hstart, hempty, List.append_nil]
  | cons c r =>
    obtain rfl : c = '&' := by simpa using hlater
    have hskip : valuesOf name ('&' :: r) = valuesOf name r := valuesOf_append name [] r
    rw [valuesOf_append, hstart, hskip]

theorem head?_takeFragment {later : List Char} (h : later.head?.all (fun c => c = '&' || c = '#') = true) :
    (takeFragment later).1.head?.all (· = '&') = true := by
  cases later with
  | nil => rfl
  | cons c r =>
    have hc : c = '&' ∨ c = '#' := by simpa using h
    rcases hc with rfl | rfl
    · rw [show '&' :: r = ['&'] ++ r from rfl, takeFragment_append (by simp)]
      rfl
    · rfl

/-! ## One URL with two passwords -/

/-- A URL is read around a plain password behind its user name. -/
theorem ofClean?_userinfo {scheme name node rest : List Char} (hscheme : ':' ∉ scheme) (hname : ':' ∉ name)
    (hnode : '@' ∉ node) (hauthority : (name ++ node).any endsAuthority = false)
    (hrest : rest.head?.all endsAuthority = true) (hp : IsPlain p) :
    ofClean? (scheme ++ ':' :: '/' :: '/' :: (name ++ [':']) ++ p ++ '@' :: (node ++ rest)) =
      (takeScheme? (scheme ++ [':'])).bind fun s =>
        (authorityOf? (name ++ ':' :: ['x']) node).map fun a => { a with password := some p }.url s.1 rest := by
  have htext : scheme ++ ':' :: '/' :: '/' :: (name ++ [':']) ++ p ++ '@' :: (node ++ rest) =
      scheme ++ ':' :: ('/' :: '/' :: (name ++ ':' :: (p ++ '@' :: (node ++ rest)))) := by simp
  rw [htext, ofClean?, takeScheme?_append_colon hscheme]
  cases takeScheme? (scheme ++ [':']) with
  | none => rfl
  | some s => exact withAuthority?_userinfo s.1 hname hnode hauthority hrest hp

/-- A URL is read around a plain value in its query. -/
theorem ofClean?_parameter {start earlier key : List Char} (hstart : '?' ∉ start ∧ '#' ∉ start)
    (hearlier : '#' ∉ earlier) (hkey : '#' ∉ key) (hp : IsPlain p) (later : List Char) :
    ofClean? (start ++ '?' :: (earlier ++ key ++ ['=']) ++ p ++ later) =
      (ofClean? (start ++ ['?'])).map fun u =>
        { u with
          query := some (earlier ++ (key ++ '=' :: p) ++ (takeFragment later).1)
          fragment := (takeFragment later).2 } := by
  -- the query reaches at least over the password
  have hfragment : '#' ∉ earlier ++ (key ++ '=' :: p) := by
    intro hm
    simp only [List.mem_append, List.mem_cons] at hm
    rcases hm with hm | hm | hm | hm
    · exact hearlier hm
    · exact hkey hm
    · cases hm
    · exact hp.notMem rfl hm
  have htext : start ++ '?' :: (earlier ++ key ++ ['=']) ++ p ++ later =
      start ++ '?' :: (earlier ++ (key ++ '=' :: p) ++ later) := by simp
  rw [htext, ofClean?_query fun c hc => ⟨fun h => hstart.1 (h ▸ hc), fun h => hstart.2 (h ▸ hc)⟩]
  refine congrArg (fun f => Option.map f _) (funext fun u => ?_)
  rw [setQuery, takeFragment_append hfragment]

/-- With another plain password a URL has the same parts, the password apart. -/
theorem ofClean?_alike {before after : List Char} (h : PasswordPlace before after) (hp : IsPlain p) (hq : IsPlain q) :
    SpelledAlike (ofClean? (before ++ p ++ after)) (ofClean? (before ++ q ++ after)) := by
  cases h with
  | @userinfo scheme name node rest hscheme hname hnode hauthority hrest =>
    rw [ofClean?_userinfo hscheme hname hnode hauthority hrest hp,
      ofClean?_userinfo hscheme hname hnode hauthority hrest hq]
    cases takeScheme? (scheme ++ [':']) with
    | none => exact .none
    | some s =>
      cases authorityOf? (name ++ ':' :: ['x']) node with
      | none => exact .none
      | some a =>
        refine .same ⟨rfl, rfl, rfl, rfl, rfl, rfl, .inr ⟨p, q, hp, hq, rfl, rfl⟩, ?_⟩
        intro name _
        rfl
  | @parameter start earlier key _ hstart hearlier hkey hpass hlater =>
    rw [ofClean?_parameter hstart hearlier.1 hkey.2.2 hp, ofClean?_parameter hstart hearlier.1 hkey.2.2 hq]
    cases ofClean? (start ++ ['?']) with
    | none => exact .none
    | some u =>
      refine .same ⟨rfl, rfl, rfl, rfl, rfl, rfl, .inl rfl, ?_⟩
      intro name hname
      have hvalues : ∀ {p}, IsPlain p → valuesOf name (earlier ++ (key ++ '=' :: p) ++ (takeFragment after).1) =
          valuesOf name earlier ++ valuesOf name (takeFragment after).1 := fun hp =>
        valuesOf_around hearlier.2 ⟨hkey.1, hkey.2.1⟩ (hp.notMem rfl) (hpass ▸ Ne.symm hname) (head?_takeFragment hlater)
      rw [parameter?_eq, parameter?_eq, Option.getD_some, Option.getD_some, hvalues hp, hvalues hq]
  | @foreign scheme start _ hscheme hforeign =>
    have hread : ∀ p u, ofClean? (scheme ++ ':' :: start ++ p ++ after) = some u →
        u.scheme ∉ nodeSchemes ++ socketSchemes := by
      intro p u hu
      rw [List.append_assoc, List.append_assoc, List.cons_append] at hu
      rw [scheme_of_ofClean? hscheme hu]
      exact hforeign
    exact .foreign (hread p) (hread q)

/-! ## One node with two passwords -/

/-- Two texts name one node, the password apart, or are refused for one fault. -/
inductive NamedAlike : Except UrlFault Node → Except UrlFault Node → Prop where
  | node {n m : Node} (h : n.masked = m.masked) : NamedAlike (.ok n) (.ok m)
  | fault (f : UrlFault) : NamedAlike (.error f) (.error f)

theorem NamedAlike.refl (r : Except UrlFault Node) : NamedAlike r r := by
  cases r with
  | error f => exact .fault f
  | ok n => exact .node rfl

/-- A URL that names a socket as it should: with a path on this machine, and with a database and a protocol that there
are if it names any. -/
structure IsSocket (u : Url) : Prop where
  scheme : u.scheme ∈ socketSchemes
  path : hasSocketPath u = true
  database : ∀ v, u.parameter? "db" = some v → (Decimal.int64? v.toList).isSome
  protocol : ∀ v, u.parameter? "protocol" = some v → v ∈ ["2", "resp2", "3", "resp3"]

/-- The text is a URL that names a socket as it should. -/
def NamesSocket (text : String) : Prop := ∃ u, ofText? text = some u ∧ u.IsSocket

/-- A socket is refused in the words that name it. -/
theorem node_of_namesSocket {text : String} (h : NamesSocket text) : node text = .error (.socket text) := by
  obtain ⟨u, hu, h⟩ := h
  have hnode : nodeSchemes.contains u.scheme = false := by
    have hs := h.scheme
    simp only [socketSchemes, List.mem_cons, List.not_mem_nil, or_false] at hs
    rcases hs with hs | hs <;> rw [hs] <;> decide
  have hprotocol : u.checkProtocol = .ok () := by
    unfold checkProtocol
    cases hv : u.parameter? "protocol" with
    | none => rfl
    | some v => simp [h.protocol v hv]
  have hfault : socketFault text u = .socket text := by
    unfold socketFault
    cases hv : u.parameter? "db" with
    | none => simp [h.path, hprotocol]
    | some v =>
      obtain ⟨n, hn⟩ := Option.isSome_iff_exists.1 (h.database v hv)
      simp only [h.path, hprotocol, database?, hn]
      rfl
  have hsocket : socketSchemes.contains u.scheme = true := List.contains_iff_mem.2 h.scheme
  rw [node, hu]
  simp only [hnode, hsocket, hfault, if_true, Bool.false_eq_true, if_false]

theorem known_of_checkProtocol {u : Url} (h : u.checkProtocol = .ok ()) :
    ∀ v, u.parameter? "protocol" = some v → v ∈ ["2", "resp2", "3", "resp3"] := by
  intro v hv
  rw [checkProtocol, hv] at h
  by_cases hknown : v ∈ ["2", "resp2", "3", "resp3"]
  · exact hknown
  · simp [hknown] at h

/-- What else is wrong with a socket does not depend on the text. -/
theorem socketFault_of_not_isSocket {u : Url} (hscheme : u.scheme ∈ socketSchemes) (h : ¬ u.IsSocket)
    (text text' : String) : socketFault text u = socketFault text' u := by
  unfold socketFault
  cases hpath : hasSocketPath u with
  | false => rfl
  | true =>
    cases hprotocol : u.checkProtocol with
    | error f =>
      cases u.parameter? "db" with
      | none => rfl
      | some v => cases hv : database? v.toList <;> simp only [hv] <;> rfl
    | ok _ =>
      cases hdb : u.parameter? "db" with
      | none => exact absurd ⟨hscheme, hpath, by simp [hdb], known_of_checkProtocol hprotocol⟩ h
      | some v =>
        cases hv : Decimal.int64? v.toList with
        | none => simp only [database?, hv]; rfl
        | some n =>
          refine absurd ⟨hscheme, hpath, ?_, known_of_checkProtocol hprotocol⟩ h
          intro w hw
          rw [hdb] at hw
          cases hw
          rw [hv]
          rfl

namespace SameButPassword

variable {u v : Url}

theorem checkProtocol_eq (h : SameButPassword u v) : u.checkProtocol = v.checkProtocol := by
  rw [checkProtocol, checkProtocol, h.parameter? "protocol" (by decide)]

theorem security_eq (h : SameButPassword u v) : u.security = v.security := by
  rw [security, security, h.scheme, h.fragment]

theorem socketFault_eq (h : SameButPassword u v) (text : String) : socketFault text u = socketFault text v := by
  have hpath : hasSocketPath u = hasSocketPath v := by rw [hasSocketPath, hasSocketPath, h.path, h.host]
  rw [socketFault, socketFault, hpath, h.parameter? "db" (by decide), h.checkProtocol_eq]

theorem symm (h : SameButPassword u v) : SameButPassword v u where
  scheme := h.scheme.symm
  username := h.username.symm
  host := h.host.symm
  port := h.port.symm
  path := h.path.symm
  fragment := h.fragment.symm
  password := by
    rcases h.password with hsame | ⟨p, q, hp, hq, hu, hv⟩
    · exact .inl hsame.symm
    · exact .inr ⟨q, p, hq, hp, hv, hu⟩
  parameter? := fun name hname => (h.parameter? name hname).symm

theorem isSocket (h : SameButPassword u v) (hs : u.IsSocket) : v.IsSocket where
  scheme := h.scheme ▸ hs.scheme
  path := by
    rw [hasSocketPath, ← h.path, ← h.host]
    exact hs.path
  database := h.parameter? "db" (by decide) ▸ hs.database
  protocol := h.parameter? "protocol" (by decide) ▸ hs.protocol

theorem networkNode_alike (h : SameButPassword u v) : NamedAlike (networkNode u) (networkNode v) := by
  rcases h.password with hsame | ⟨p, q, hp, hq, hu, hv⟩
  · -- the password of the node is not the one that differs
    have heq : networkNode u = networkNode v := by
      simp only [networkNode, h.host, h.port, h.username, h.path, h.security_eq, h.checkProtocol_eq, hsame]
    rw [heq]
    exact .refl _
  · simp only [networkNode, h.host, h.port, h.username, h.path, h.security_eq, h.checkProtocol_eq, hu, hv, hp.decoded,
      hq.decoded]
    -- both are read in one order, and the first fault is the same: a plain password has none
    cases v.host with
    | none => exact .fault _
    | some host =>
    cases v.security with
    | error f => exact .fault _
    | ok security =>
    cases pathDatabase? v.path with
    | error f => exact .fault _
    | ok database =>
    by_cases hempty : v.username.isEmpty = true
    · simp only [hempty, if_true]
      cases v.checkProtocol with
      | error f => exact .fault _
      | ok _ => exact .node rfl
    · simp only [hempty]
      cases decoded .undecodableUsername v.username with
      | error f => exact .fault _
      | ok username =>
      cases v.checkProtocol with
      | error f => exact .fault _
      | ok _ => exact .node rfl

end SameButPassword

/-- With another plain password a text spells the same URL, the password apart. -/
theorem ofText?_alike {before after p q : String} (h : PasswordPlace (cleanStart before.toList) (cleanEnd after.toList))
    (hp : IsPlain p.toList) (hq : IsPlain q.toList) :
    SpelledAlike (ofText? (before ++ p ++ after)) (ofText? (before ++ q ++ after)) := by
  rw [ofText?_eq, ofText?_eq]
  simp only [String.toList_append]
  rw [clean_append hp, clean_append hq]
  exact ofClean?_alike h hp hq

theorem namesSocket_alike {before after p q : String}
    (h : PasswordPlace (cleanStart before.toList) (cleanEnd after.toList)) (hp : IsPlain p.toList)
    (hq : IsPlain q.toList) (hsocket : NamesSocket (before ++ p ++ after)) : NamesSocket (before ++ q ++ after) := by
  obtain ⟨u, hu, hsocket⟩ := hsocket
  have halike := ofText?_alike h hp hq
  rw [hu] at halike
  generalize hy : ofText? (before ++ q ++ after) = y at halike
  cases halike with
  | same huv => exact ⟨_, hy, huv.isSocket hsocket⟩
  | foreign hu _ => exact absurd (List.mem_append_right _ hsocket.scheme) (hu u rfl)

/-- A scheme that the store does not know is refused, whatever stands behind it. -/
theorem node_of_foreign {text : String} (h : ∀ u, ofText? text = some u → u.scheme ∉ nodeSchemes ++ socketSchemes) :
    node text = .error .unreadable := by
  unfold node
  cases hu : ofText? text with
  | none => rfl
  | some u =>
    have hscheme := h u hu
    rw [List.mem_append, not_or] at hscheme
    simp [hscheme.1, hscheme.2]

/-- With another plain password a text names the same node or is refused for the same fault, unless it names a socket. -/
theorem node_alike {before after p q : String} (h : PasswordPlace (cleanStart before.toList) (cleanEnd after.toList))
    (hp : IsPlain p.toList) (hq : IsPlain q.toList) (hsocket : ¬ NamesSocket (before ++ p ++ after)) :
    NamedAlike (node (before ++ p ++ after)) (node (before ++ q ++ after)) := by
  have halike := ofText?_alike h hp hq
  generalize hx : ofText? (before ++ p ++ after) = x, hy : ofText? (before ++ q ++ after) = y at halike
  cases halike with
  | foreign hu hv =>
    rw [node_of_foreign (hx ▸ hu), node_of_foreign (hy ▸ hv)]
    exact .fault _
  | @same u v huv =>
    simp only [node, hx, hy, ← huv.scheme]
    split
    · exact huv.networkNode_alike
    · split
      · next hscheme =>
        rw [huv.socketFault_eq, socketFault_of_not_isSocket (huv.scheme ▸ List.contains_iff_mem.1 hscheme)
          (fun hs => hsocket ⟨u, hx, huv.symm.isSocket hs⟩)]
        exact .fault _
      · exact .fault _

end Url

end Tether

import Tether.Text.Hex
import Tether.Text.Integer
import Tether.Text.Split

namespace Tether

/-! # IPv6 addresses

Eight groups of sixteen bits. In text the groups stand between colons in hexadecimal, one `::` may stand for
one or more groups that are zero, and the last two groups may be written as four decimal numbers between
points.
-/

/-- An IPv6 address. -/
structure Ipv6 where
  groups : List Nat
  length_groups : groups.length = 8
deriving DecidableEq, Repr

namespace Ipv6

/-- A group: one to four hexadecimal digits. -/
def group? (cs : List Char) : Option Nat :=
  if cs.isEmpty ∨ 4 < cs.length then none else Hex.digitsFrom? 0 cs

/-- A number of a dotted quad: at most 255, without a leading zero. -/
def octet? (cs : List Char) : Option Nat :=
  if cs.head? = some '0' ∧ cs.length ≠ 1 then none
  else (Decimal.digits? cs).bind fun n => if n ≤ 255 then some n else none

/-- The two groups that a dotted quad stands for. -/
def quad? (cs : List Char) : Option (List Nat) :=
  match (Split.parts '.' cs).map octet? with
  | [some a, some b, some c, some d] => some [a * 256 + b, c * 256 + d]
  | _ => none

/-- The groups of the parts between colons; the last part may be a dotted quad. -/
def groupsOfParts? : List (List Char) → Option (List Nat)
  | [] => some []
  | [part] => if part.contains '.' then quad? part else (group? part).map ([·])
  | part :: rest => do
    let g ← group? part
    let gs ← groupsOfParts? rest
    pure (g :: gs)

/-- The groups of one side of a `::`, which may be empty. -/
def side? (cs : List Char) : Option (List Nat) :=
  if cs.isEmpty then some [] else groupsOfParts? (Split.parts ':' cs)

/-- The texts before and after the first `::`. -/
def gap? : List Char → Option (List Char × List Char)
  | ':' :: ':' :: r => some ([], r)
  | c :: r => (gap? r).map fun p => (c :: p.1, p.2)
  | [] => none

/-- The address made of these groups, if there are eight. -/
def ofGroups? (groups : List Nat) : Option Ipv6 :=
  if h : groups.length = 8 then some ⟨groups, h⟩ else none

/-- The address that a text spells. -/
def ofChars? (cs : List Char) : Option Ipv6 := do
  match gap? cs with
  | none => ofGroups? (← groupsOfParts? (Split.parts ':' cs))
  | some (before, after) =>
    if before.contains '.' then none
    else
      let left ← side? before
      let right ← side? after
      if 7 < left.length + right.length then none
      else ofGroups? (left ++ List.replicate (8 - left.length - right.length) 0 ++ right)

/-- A run of groups that are zero. -/
structure Run where
  start : Nat
  length : Nat
deriving DecidableEq, Repr

/-- The first of the longest runs of zeros, given the longest so far and the run that ends at `position`. -/
def longestRun (position : Nat) (best current : Run) : List Nat → Run
  | [] => best
  | g :: gs =>
    if g = 0 then
      let grown : Run := if current.length = 0 then ⟨position, 1⟩ else ⟨current.start, current.length + 1⟩
      longestRun (position + 1) (if best.length < grown.length then grown else best) grown gs
    else longestRun (position + 1) best ⟨0, 0⟩ gs

/-- Groups in hexadecimal between colons. -/
def groupsText (groups : List Nat) : String := ":".intercalate (groups.map Hex.ofNat)

/-- The text of an address: the longest run of two or more zeros is left out, and an address that maps an
IPv4 one ends in a dotted quad. -/
def text (a : Ipv6) : String :=
  match a.groups with
  | [0, 0, 0, 0, 0, 0xFFFF, x, y] =>
    "::ffff:" ++ ".".intercalate ([x / 256, x % 256, y / 256, y % 256].map Decimal.ofNat)
  | groups =>
    let run := longestRun 0 ⟨0, 0⟩ ⟨0, 0⟩ groups
    if 1 < run.length then
      groupsText (groups.take run.start) ++ "::" ++ groupsText (groups.drop (run.start + run.length))
    else groupsText groups

end Ipv6

end Tether

import NativeExports.Text.Wide
import NativeExports.Text.Break
/-!
Terminal cell widths.  Text is cut into user-perceived characters (grapheme clusters: a
base with its combining marks, a pair of regional indicators, an emoji sequence joined by
zero-width joiners, a Hangul syllable spelled in jamo, prepended signs with what follows).
A cluster takes the cells of its first character that takes any: controls, non-printing and
combining characters take none, wide characters two, every other character one.  Tables come
from `Text.Wide` and `Text.Break`.
-/

namespace NativeExports.Text

/-- Characters that take no cell although they are printed: soft hyphen, format controls,
separators, byte order mark, interlinear annotation marks and noncharacters. -/
def isNonPrinting (n : Nat) : Bool :=
  n == 0xAD || n == 0x70F || (0x180B ≤ n && n ≤ 0x180E) || (0x200B ≤ n && n ≤ 0x200F) ||
    (0x2028 ≤ n && n ≤ 0x202E) || (0x206A ≤ n && n ≤ 0x206F) || n == 0xFEFF ||
    (0xFFF9 ≤ n && n ≤ 0xFFFB) || (0xFFFE ≤ n && n ≤ 0xFFFF)

/-- Cells one character takes on its own: none for controls, non-printing and combining
characters, two for wide characters, one for every other. -/
def charWidth (c : Char) : Nat :=
  let n := c.toNat
  if n < 0x20 then 0
  else if 0x7F ≤ n && n ≤ 0x9F then 0
  else if n == 0xAD then 0
  else if n < 0x300 then 1
  else if isNonPrinting n || combiningTable.contains n then 0
  else if wideTable.contains n then 2
  else 1

/-- The part a character plays when text is cut into clusters. -/
inductive ClusterRole where
  | cr
  | lf
  | control
  /-- Joins the cluster before it: nonspacing marks, variation selectors, emoji modifiers. -/
  | extend
  | joiner
  /-- A spacing combining mark, which also joins the cluster before it. -/
  | spacingMark
  /-- Joins the cluster after it, such as the Arabic number signs. -/
  | prepend
  | regional
  | pictographic
  | hangulL
  | hangulV
  | hangulT
  | hangulLV
  | hangulLVT
  | other
  deriving Repr, DecidableEq

/-- The cluster role of a character. -/
def clusterRole (c : Char) : ClusterRole :=
  let n := c.toNat
  if n == 0x0D then .cr
  else if n == 0x0A then .lf
  else if n == 0x200D then .joiner
  else if controlTable.contains n then .control
  else if extendTable.contains n then .extend
  else if spacingMarkTable.contains n then .spacingMark
  else if prependTable.contains n then .prepend
  else if 0x1F1E6 ≤ n && n ≤ 0x1F1FF then .regional
  else if (0x1100 ≤ n && n ≤ 0x115F) || (0xA960 ≤ n && n ≤ 0xA97C) then .hangulL
  else if (0x1160 ≤ n && n ≤ 0x11A7) || (0xD7B0 ≤ n && n ≤ 0xD7C6) then .hangulV
  else if (0x11A8 ≤ n && n ≤ 0x11FF) || (0xD7CB ≤ n && n ≤ 0xD7FB) then .hangulT
  else if 0xAC00 ≤ n && n ≤ 0xD7A3 then
    (if (n - 0xAC00) % 28 == 0 then .hangulLV else .hangulLVT)
  else if pictographicTable.contains n then .pictographic
  else .other

/-- What the cutter remembers of the characters already in the current cluster. -/
structure ClusterState where
  /-- Role of the last character. -/
  last : ClusterRole
  /-- A pictograph followed only by extending characters ends the cluster so far. -/
  afterPictograph : Bool
  /-- The last character is a joiner that follows such a pictograph. -/
  joinerAfterPictograph : Bool
  /-- The cluster so far ends in an odd number of regional indicators. -/
  oddRegional : Bool

/-- Whether a character of role `next` continues the current cluster. -/
def ClusterState.joins (s : ClusterState) (next : ClusterRole) : Bool :=
  match s.last, next with
  | .cr, .lf => true
  | .cr, _ | .lf, _ | .control, _ => false
  | _, .cr | _, .lf | _, .control => false
  | .prepend, _ => true
  | .hangulL, .hangulL | .hangulL, .hangulV | .hangulL, .hangulLV | .hangulL, .hangulLVT => true
  | .hangulLV, .hangulV | .hangulLV, .hangulT | .hangulV, .hangulV | .hangulV, .hangulT => true
  | .hangulLVT, .hangulT | .hangulT, .hangulT => true
  | _, .extend | _, .joiner | _, .spacingMark => true
  | .joiner, .pictographic => s.joinerAfterPictograph
  | .regional, .regional => s.oddRegional
  | _, _ => false

/-- The state after a character of role `next`; `joined` tells whether it joined. -/
def ClusterState.step (s : ClusterState) (next : ClusterRole) (joined : Bool) : ClusterState where
  last := next
  afterPictograph := match next with
    | .pictographic => true
    | .extend => joined && s.afterPictograph
    | _ => false
  joinerAfterPictograph := next == .joiner && joined && s.afterPictograph
  oddRegional := match next with
    | .regional => !(joined && s.oddRegional)
    | _ => false

/-- The state of a cluster that starts with a character of role `r`. -/
def ClusterState.start (r : ClusterRole) : ClusterState where
  last := r
  afterPictograph := r == .pictographic
  joinerAfterPictograph := false
  oddRegional := r == .regional

/-- Cuts the rest of the text, given the cluster being built (reversed) and its state. -/
def clustersFrom (s : ClusterState) (current : List Char) : List Char → List (List Char)
  | [] => [current.reverse]
  | c :: rest =>
    let r := clusterRole c
    if s.joins r then clustersFrom (s.step r true) (c :: current) rest
    else current.reverse :: clustersFrom (ClusterState.start r) [c] rest

/-- Text cut into user-perceived characters, in order; nothing is lost or reordered. -/
def clusters : List Char → List (List Char)
  | [] => []
  | c :: rest => clustersFrom (ClusterState.start (clusterRole c)) [c] rest

/-- Cells a cluster takes: those of its first character that takes any. -/
def clusterWidth : List Char → Nat
  | [] => 0
  | c :: rest => if charWidth c = 0 then clusterWidth rest else charWidth c

/-- Cells a text takes on a terminal. -/
def displayWidth (s : String) : Nat :=
  ((clusters s.toList).map clusterWidth).foldr (· + ·) 0

/-- The longest run of whole clusters from the front whose width stays within `room`. -/
def takeClustersWithin : Nat → List (List Char) → List Char
  | _, [] => []
  | room, g :: rest =>
    if clusterWidth g ≤ room then g ++ takeClustersWithin (room - clusterWidth g) rest
    else []

/-- The text cut to at most `width` cells with `tail` after the cut; text that fits is
kept whole.  The room for clusters is `width` less the cells of `tail`. -/
def truncateTo (s : String) (width : Nat) (tail : String) : String :=
  if displayWidth s ≤ width then s
  else String.ofList (takeClustersWithin (width - displayWidth tail) (clusters s.toList)) ++ tail

/-- The text padded with spaces on the right to `width` cells. -/
def fillRight (s : String) (width : Nat) : String :=
  s ++ String.ofList (List.replicate (width - displayWidth s) ' ')

end NativeExports.Text

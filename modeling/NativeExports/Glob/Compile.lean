import NativeExports.Glob.Matcher
/-!
Compiling a pattern's tree into a matcher.

* A choice whose alternatives share leading or trailing parts is rewritten as the shared
  leading parts, a choice of what is left of each alternative (an alternative left empty
  matches the empty text), and the shared trailing parts.
* The parts of a pattern are compiled one by one; then the longest run of them that glues
  into one matcher is glued, again and again.  Runs of `*`, `**`, `?` and negated lists that
  exclude the same characters glue into a count of characters (`atLeast`, `atMost`) with an
  exclusion (`contains` negated); runs of parts of fixed length glue into a row.
* What is left is split around its longest part of fixed length (the last of the longest),
  whose left and right sides are compiled the same way; with no part of fixed length, around
  its first part.
* A split around literal text whose sides are `**`, `*`, a leading or a trailing text becomes
  a test of the text's start and end (`begins`, `ends`, `beginsEnds`, `beginsThenAny`,
  `anyThenEnds`, `contains`).  The start and end tests of `beginsEnds` may overlap.
-/

namespace NativeExports.Glob

/-! Simplifying choices -/

/-- The parts of a pattern node; no parts for any other node. -/
def Node.parts : Node → List Node
  | .pattern ps => ps
  | _ => []

/-- Whether a node is a pattern. -/
def Node.isPattern : Node → Bool
  | .pattern _ => true
  | _ => false

/-- The parts that all patterns share at the start and at the end, compared with the pattern
of fewest parts (the first such): position by position from both ends, the start run stops at
the first difference, and the end run stops at the first difference or where it would meet
the start run. -/
def commonParts (nodes : List Node) : List Node × List Node :=
  if nodes.length ≤ 1 then ([], []) else
  let fewest := nodes.foldl (fun best n => if n.parts.length < best.parts.length then n else best)
    (nodes.headD (.pattern []))
  let idx := (nodes.findIdx? fun n => n.parts.length == fewest.parts.length).getD 0
  let parts := fewest.parts
  let size := parts.length
  let others := (nodes.zipIdx.filter fun (_, k) => k != idx).map (·.1)
  let rec walk : Nat → Nat → Int → Bool → Bool → Nat → List Node → Nat → List Node × Nat
    | 0, _, _, _, _, _, left, lastRight => (left, lastRight)
    | fuel + 1, i, j, breakLeft, breakRight, total, left, lastRight =>
      if !(total < size && j ≥ 0 && !(breakLeft && breakRight)) then (left, lastRight)
      else
        let here := parts.getD i .nothing
        let there := parts.getD j.toNat .nothing
        let (bl, br) := others.foldl (fun (bl, br) other =>
          let restLeft := other.parts.getD i .nothing
          let restRight := other.parts.getD (j.toNat + other.parts.length - size) .nothing
          let bl := bl || !(here == restLeft)
          let br := br || (!bl && j ≤ i)
          (bl, br || !(there == restRight))) (breakLeft, breakRight)
        let (total, left) := if !bl then (total + 1, left ++ [here]) else (total, left)
        let (total, lastRight) := if !br then (total + 1, j.toNat) else (total, lastRight)
        walk fuel (i + 1) (j - 1) bl br total left lastRight
  let (left, lastRight) := walk (size + 1) 0 ((size : Int) - 1) false false 0 [] size
  (left, parts.drop lastRight)

/-- A choice rewritten around the parts its alternatives share, or none when they share none
(or are not all patterns). -/
def simplifyChoice (alternatives : List Node) : Option Node :=
  if !alternatives.all Node.isPattern then none else
  let (left, right) := commonParts alternatives
  if left.isEmpty && right.isEmpty then none else
  let rests := alternatives.foldl (fun acc alt =>
    let ps := alt.parts
    let reuse := (ps.drop left.length).take (ps.length - left.length - right.length)
    let node := if reuse.isEmpty then Node.nothing else .pattern reuse
    if acc.contains node then acc else acc ++ [node]) []
  let middle := match rests with
    | [] => []
    | [n] => if n == .nothing then [] else [n]
    | ns => [Node.anyOf ns]
  some (.pattern ((if left.isEmpty then [] else [Node.pattern left]) ++ middle ++
    (if right.isEmpty then [] else [Node.pattern right])))

/-! Gluing runs of matchers -/

/-- The characters a matcher excludes when it can be glued into a count of characters:
none for `super`, the separator for `any` and `single`, the listed ones for a negated list. -/
def Matcher.exclusion? : Matcher → Option (List Char)
  | .super => some []
  | .any => some [separator]
  | .single => some [separator]
  | .list cs true => some cs
  | _ => none

/-- Whether a matcher stands for one character. -/
def Matcher.isOne : Matcher → Bool
  | .single | .list _ true => true
  | _ => false

/-- Whether a matcher is `super`. -/
def Matcher.isSuper : Matcher → Bool
  | .super => true
  | _ => false

/-- Whether a matcher is `any`. -/
def Matcher.isAny : Matcher → Bool
  | .any => true
  | _ => false

/-- A run of `*`, `**`, `?` and negated lists that exclude the same characters, as one
matcher: `**` alone, `*` alone, or a count of characters with the exclusion. -/
def glueCount (ms : List Matcher) : Option Matcher := do
  if ms.length ≤ 1 then none
  let exclusions ← ms.mapM Matcher.exclusion?
  let excluded := exclusions.headD []
  if !exclusions.all (· == excluded) then none
  let hasSuper := ms.any Matcher.isSuper
  let hasAny := ms.any Matcher.isAny
  let ones := (ms.filter Matcher.isOne).length
  if hasSuper && !hasAny && ones == 0 then return .super
  if hasAny && !hasSuper && ones == 0 then return .any
  if (hasAny || hasSuper) && ones > 0 && excluded.isEmpty then return .atLeast ones
  let counts : List Matcher :=
    if ones > 0 then .atLeast ones :: (if !hasAny && !hasSuper then [.atMost ones] else []) else []
  let exclusion : List Matcher := if excluded.isEmpty then [] else [.contains (utf8 excluded) true]
  return .everyOf (counts ++ exclusion)

/-- A run of matchers of fixed length, as a row. -/
def glueRow (ms : List Matcher) : Option Matcher :=
  if ms.length ≤ 1 || ms.any (fun m : Matcher => m.len == -1) then none
  else some (.row (ms.foldl (fun (n : Int) (m : Matcher) => n + m.len) 0).toNat ms)

/-- A run of matchers as one matcher, when it glues. -/
def glue (ms : List Matcher) : Option Matcher := (glueCount ms).orElse fun _ => glueRow ms

/-- The run to glue: the longest run that glues, the first of them from the left, unless a
later run of the same or smaller count glues into a longer fixed length. -/
def bestRun (ms : List Matcher) : Option (Matcher × Nat × Nat) :=
  let n := ms.length
  let spans := (List.range n).flatMap fun l => ((List.range (n - l)).map fun k => (l, n - k))
  spans.foldl (fun done (l, r) =>
    match glue ((ms.drop l).take (r - l)) with
    | none => done
    | some glued =>
      match done with
      | none => some (glued, l, r)
      | some (best, bl, br) =>
        let cl := best.len
        let gl := glued.len
        if (cl > -1 && gl > -1 && gl > cl) || br - bl < r - l then some (glued, l, r) else done)
    none

/-- Glues runs of matchers until no run glues. -/
def glueRuns : Nat → List Matcher → List Matcher
  | 0, ms => ms
  | fuel + 1, ms =>
    match bestRun ms with
    | none => ms
    | some (glued, l, r) =>
      let next := ms.take l ++ [glued] ++ ms.drop r
      if next.length == ms.length then next else glueRuns fuel next

/-! Splitting around the longest fixed part -/

/-- The position of the last matcher of the greatest fixed length. -/
def longestFixed (ms : List Matcher) : Option Nat :=
  (ms.zipIdx.foldl (fun best (m, i) =>
    if m.len == -1 then best
    else match best with
      | some (_, len) => if m.len ≥ len then some (i, m.len) else best
      | none => some (i, m.len)) none).map (·.1)

/-- Matchers one after another as one matcher: glued when they glue, else split around the
longest fixed part. -/
def sequence : Nat → List Matcher → Matcher
  | 0, _ => .nothing
  | _ + 1, [] => .nothing
  | _ + 1, [m] => m
  | fuel + 1, ms =>
    match glue ms with
    | some m => m
    | none =>
      match longestFixed ms with
      | none => .tree (ms.headD .nothing) none (some (sequence fuel ms.tail))
      | some i =>
        let left := ms.take i
        let right := ms.drop (i + 1)
        .tree (ms.getD i .nothing) (if left.isEmpty then none else some (sequence fuel left))
          (if right.isEmpty then none else some (sequence fuel right))

/-! Shaping -/

/-- A split around literal text, as a test of the text's start and end where its sides
allow it. -/
def shapeTree (value : Matcher) (left right : Option Matcher) : Matcher :=
  match value with
  | .text str =>
    match left, right with
    | none, none => .text str
    | some .super, some .super => .contains str false
    | some .super, none => .ends str
    | none, some .super => .begins str
    | none, some (.ends last) => .beginsEnds str last
    | some (.begins head), none => .beginsEnds head str
    | some .any, none => .anyThenEnds str
    | none, some .any => .beginsThenAny str
    | _, _ => .tree value left right
  | _ => .tree value left right

mutual

/-- A matcher in its simplest form: a choice of one is that one, a list of one character is
that character, and splits are shaped from their sides up. -/
def Matcher.optimize : Matcher → Matcher
  | .anyOf [m] => m
  | .list [c] false => .text (utf8 [c])
  | .tree value left right => shapeTree value (optimizeSide left) (optimizeSide right)
  | m => m

/-- The side of a split in its simplest form. -/
def optimizeSide : Option Matcher → Option Matcher
  | none => none
  | some m => some m.optimize

end

/-- The matcher of a tree; `fuel` bounds the nesting. -/
def compileNode : Nat → Node → Matcher
  | 0, _ => .nothing
  | fuel + 1, node =>
    match node with
    | .anyOf alternatives =>
      match simplifyChoice alternatives with
      | some simpler => compileNode fuel simpler
      | none => .anyOf (alternatives.map fun a => (compileNode fuel a).optimize)
    | .pattern [] => .nothing
    | .pattern parts =>
      let ms := parts.map fun p => (compileNode fuel p).optimize
      (sequence (ms.length + 1) (glueRuns (ms.length + 1) ms)).optimize
    | .text cs => .text (utf8 cs)
    | .any => .any
    | .super => .super
    | .single => .single
    | .list cs negated => (Matcher.list cs negated).optimize
    | .range lo hi negated => .range lo hi negated
    | .nothing => .nothing

end NativeExports.Glob

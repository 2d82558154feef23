import NativeExports.Glob.Syntax
/-!
Matchers: the compiled form of glob patterns, tested against the bytes of a path.

Each matcher says whether a whole text matches it (`matches`), and where in a text a match
of it starts first, with the lengths in bytes of the matches that start there (`index`,
lengths in increasing order).  Some matchers have a fixed length in characters (`len`,
-1 when the length varies); a compiler uses it to split patterns around their longest fixed
part.

Texts are bytes, and the positions and lengths here are byte counts, while the fixed
lengths count characters; where a character takes more than one byte the two are mixed the
way the matchers are defined, and such a match may fail on a text that the pattern read
naively would accept.  Characters are read from bytes as `Text.nextRune` reads them.
-/

namespace NativeExports.Glob

/-- The bytes of a text. -/
abbrev Bytes := List UInt8

/-- The separator as a byte. -/
def separatorByte : UInt8 := 0x2f

/-- The characters of bytes with their byte offsets, counted from `offset`. -/
def runesFrom (offset : Nat) : Bytes → List (Nat × Char)
  | [] => []
  | b :: rest =>
    let next := Text.nextRune b rest
    (offset, next.1) :: runesFrom (offset + next.2.1) next.2.2
termination_by bs => bs.length
decreasing_by
  have := Text.nextRune_rest_length b rest
  simp only [List.length_cons]; omega

/-- The characters of bytes with their byte offsets. -/
def runes (s : Bytes) : List (Nat × Char) := runesFrom 0 s

/-- The number of characters of bytes. -/
def runeCount (s : Bytes) : Nat := (runes s).length

/-- The first character of bytes and the number of bytes it takes; the replacement character
and 0 for no bytes. -/
def firstRune : Bytes → Char × Nat
  | [] => (Text.replacementChar, 0)
  | b :: rest => let (r, w, _) := Text.nextRune b rest; (r, w)

/-- The bytes from `a` up to `b`. -/
def slice (s : Bytes) (a b : Nat) : Bytes := (s.drop a).take (b - a)

/-- The UTF-8 bytes of characters. -/
def utf8 (cs : List Char) : Bytes := (String.ofList cs).toUTF8.toList

/-- The first position where `needle` occurs in `s`; the empty needle occurs at 0. -/
def indexOf (s needle : Bytes) : Option Nat :=
  (List.range (s.length + 1)).find? fun i => needle.isPrefixOf (s.drop i)

/-- The last position where `needle` occurs in `s`; the empty needle occurs at the end. -/
def lastIndexOf (s needle : Bytes) : Option Nat :=
  (List.range (s.length + 1)).reverse.find? fun i => needle.isPrefixOf (s.drop i)

/-- The position of the first separator. -/
def separatorIndex (s : Bytes) : Option Nat := s.findIdx? (· == separatorByte)

/-- The position of the last separator. -/
def lastSeparatorIndex (s : Bytes) : Option Nat :=
  (s.length - 1 - ·) <$> s.reverse.findIdx? (· == separatorByte)

/-- The byte length of a character's UTF-8 form. -/
def runeLength (c : Char) : Nat := c.utf8Size

/-- A compiled pattern. -/
inductive Matcher where
  /-- The empty text. -/
  | nothing
  /-- Exactly these bytes. -/
  | text (str : Bytes)
  /-- Any text without a separator. -/
  | any
  /-- Any text. -/
  | super
  /-- One character other than a separator. -/
  | single
  /-- One character of a list, or not of it. -/
  | list (cs : List Char) (negated : Bool)
  /-- One character of a range, or not of it. -/
  | range (lo hi : Char) (negated : Bool)
  /-- A text that one of the matchers matches. -/
  | anyOf (ms : List Matcher)
  /-- A text that every matcher matches. -/
  | everyOf (ms : List Matcher)
  /-- At least this many characters. -/
  | atLeast (limit : Nat)
  /-- At most this many characters. -/
  | atMost (limit : Nat)
  /-- A text holding these bytes, or not holding them. -/
  | contains (needle : Bytes) (negated : Bool)
  /-- A text that begins with these bytes. -/
  | begins (head : Bytes)
  /-- A text that ends with these bytes. -/
  | ends (last : Bytes)
  /-- A text that begins with the first bytes and ends with the second; the two may overlap. -/
  | beginsEnds (head last : Bytes)
  /-- These bytes, then a text without a separator. -/
  | beginsThenAny (head : Bytes)
  /-- A text without a separator, then these bytes. -/
  | anyThenEnds (last : Bytes)
  /-- Matchers of fixed lengths one after another, `length` characters in all. -/
  | row (length : Nat) (ms : List Matcher)
  /-- A match of `value` with a text before it that `left` matches (or none) and a text after
  it that `right` matches (or none). -/
  | tree (value : Matcher) (left right : Option Matcher)
  deriving Repr, Inhabited

mutual

/-- The fixed length of a matcher in characters, -1 when it varies.  A choice takes the
length of its first alternative with a fixed length when those before it have none, and
varies as soon as a later one differs. -/
def Matcher.len : Matcher → Int
  | .nothing => 0
  | .text str => runeCount str
  | .single | .list .. | .range .. => 1
  | .anyOf ms => anyOfLen (-1) ms
  | .everyOf [] => 0
  | .row n _ => n
  | _ => -1

/-- The length of a choice, from the length found so far. -/
def anyOfLen (found : Int) : List Matcher → Int
  | [] => found
  | m :: rest =>
    if found == -1 then anyOfLen m.len rest
    else if m.len == -1 || m.len != found then -1
    else anyOfLen found rest

end

/-- The positions where the matches of a choice start first, merged from the starts and
lengths of its alternatives: the earliest start wins, and lengths at an equal start are
merged in order. -/
def mergeLengths : List Nat → List Nat → List Nat
  | [], ys => ys
  | xs, [] => xs
  | x :: xs, y :: ys =>
    if x == y then x :: mergeLengths xs ys
    else if x < y then x :: mergeLengths xs (y :: ys)
    else y :: mergeLengths (x :: xs) ys

/-- The first start and lengths of a choice, from those of its alternatives in order. -/
def earliest : List (Option (Nat × List Nat)) → Option (Nat × List Nat)
  | [] => none
  | none :: rest => earliest rest
  | some (i, seg) :: rest =>
    match earliest rest with
    | none => some (i, seg)
    | some (j, seg') =>
      if i < j then some (i, seg) else if j < i then some (j, seg') else some (i, mergeLengths seg seg')

/-- The first start and lengths of a text that every matcher matches: each matcher is looked
for after the start of the one before, and only lengths that end at one place for all of
them are kept. -/
def everyIndex (s : Bytes) : List (Bytes → Option (Nat × List Nat)) → Nat → List Int →
    Bool → Option (Nat × List Nat)
  | [], index, current, _ => some (index, current.map Int.toNat)
  | idx :: rest, index, current, first =>
    match idx (s.drop index) with
    | none => none
    | some (i, seg) =>
      if first then everyIndex s rest (index + i) (seg.map Int.ofNat) false
      else
        let delta : Int := (index : Int) - ((i + index : Nat) : Int)
        let next := current.flatMap fun ex => (seg.map Int.ofNat).filter fun n => ex + delta == n
        if next.isEmpty then none else everyIndex s rest (index + i) next false

/-- Whether matchers of fixed lengths match the text from its start one after another, each
given the bytes up to the first byte of its last character. -/
def rowMatchAll : List (Int × (Bytes → Bool)) → Bytes → Bool
  | [], _ => true
  | (length, ok) :: rest, s =>
    let starts := (runes s).map (·.1)
    let count := min starts.length (if length ≤ 0 then starts.length else length.toNat)
    let next := (starts.take count).getLast?.getD 0
    if (count : Int) < length then false
    else ok (s.take (next + 1)) && rowMatchAll rest (s.drop (next + 1))

/-- Whether a text has exactly `n` characters. -/
def hasRuneCount (n : Nat) (s : Bytes) : Bool := runeCount s == n

/-- The first start of a row: the first character from which at least `length` bytes are
left and the row matches. -/
def rowIndex (length : Nat) (matchAll : Bytes → Bool) (s : Bytes) : Option (Nat × List Nat) :=
  let rec go : List (Nat × Char) → Option (Nat × List Nat)
    | [] => none
    | (i, _) :: rest =>
      if s.length - i < length then none
      else if matchAll (s.drop i) then some (i, [length])
      else go rest
  go (runes s)

/-- Whether a tree matcher matches a text, given its value's search and how its sides match:
each place the value is found, from left to right, is tried with each of its lengths, longest
first.  The search starts after the fixed length of the left side and stops before that of
the right side. -/
def treeMatches (valueIndex : Bytes → Option (Nat × List Nat)) (leftOk rightOk : Bytes → Bool)
    (leftLen rightLen : Nat) (s : Bytes) : Bool :=
  let limit : Int := (s.length : Int) - rightLen
  let rec go : Nat → Nat → Bool
    | 0, _ => false
    | fuel + 1, offset =>
      if (offset : Int) ≥ limit then false
      else match valueIndex (slice s offset limit.toNat) with
        | none => false
        | some (index, segments) =>
          let here := offset + index
          let found := leftOk (s.take here) &&
            segments.reverse.any fun length => rightOk (s.drop (here + length))
          if found then true
          else go fuel (here + (firstRune (s.drop here)).2)
  go (s.length + 1) leftLen

/-- The ends of the occurrences of `last` in a text, in increasing order, found from the
right, each search cut before the occurrence found last. -/
def lastEnds (last : Bytes) (s : Bytes) : Nat → List Nat
  | 0 => []
  | fuel + 1 =>
    match lastIndexOf s last with
    | none => []
    | some j => lastEnds last (s.take j) fuel ++ [j + last.length]

mutual

/-- Whether a matcher matches a whole text; `fuel` bounds the nesting. -/
def Matcher.matches : Nat → Matcher → Bytes → Bool
  | 0, _, _ => false
  | fuel + 1, m, s =>
    match m with
    | .nothing => s.isEmpty
    | .text str => s == str
    | .any => (separatorIndex s).isNone
    | .super => true
    | .single =>
      let (r, w) := firstRune s
      !(s.length > w) && r != separator
    | .list cs negated =>
      let (r, w) := firstRune s
      !(s.length > w) && cs.contains r == !negated
    | .range lo hi negated =>
      let (r, w) := firstRune s
      !(s.length > w) && (lo ≤ r && r ≤ hi) == !negated
    | .anyOf ms => ms.any fun m => Matcher.matches fuel m s
    | .everyOf ms => ms.all fun m => Matcher.matches fuel m s
    | .atLeast n => 0 < runeCount s && n ≤ runeCount s
    | .atMost n => runeCount s ≤ n
    | .contains needle negated => (indexOf s needle).isSome != negated
    | .begins head => head.isPrefixOf s
    | .ends last => last.isSuffixOf s
    | .beginsEnds head last => head.isPrefixOf s && last.isSuffixOf s
    | .beginsThenAny head => head.isPrefixOf s && (separatorIndex (s.drop head.length)).isNone
    | .anyThenEnds last =>
      last.isSuffixOf s && (separatorIndex (s.take (s.length - last.length))).isNone
    | .row n ms =>
      hasRuneCount n s && rowMatchAll (ms.map fun m => (m.len, fun t => Matcher.matches fuel m t)) s
    | .tree value left right =>
      let fixed (side : Option Matcher) : Nat := match side with
        | some m => if m.len == -1 then 0 else m.len.toNat
        | none => 0
      let total : Int :=
        if value.len == -1 || (left.map (·.len == -1)).getD false ||
          (right.map (·.len == -1)).getD false then -1
        else (fixed left : Int) + value.len + fixed right
      if total != -1 && total > s.length then false
      else
        let sideOk (side : Option Matcher) (t : Bytes) : Bool := match side with
          | some m => Matcher.matches fuel m t
          | none => t.isEmpty
        treeMatches (fun t => Matcher.index fuel value t) (sideOk left) (sideOk right)
          (fixed left) (fixed right) s

/-- Where the first match of a matcher in a text starts, and the byte lengths of the matches
that start there, in increasing order. -/
def Matcher.index : Nat → Matcher → Bytes → Option (Nat × List Nat)
  | 0, _, _ => none
  | fuel + 1, m, s =>
    match m with
    | .nothing => some (0, [0])
    | .text str => (indexOf s str).map fun i => (i, [str.length])
    | .any =>
      match separatorIndex s with
      | some 0 => some (0, [0])
      | found =>
        let t := match found with
          | some f => s.take f
          | none => s
        some (0, (runes t).map (·.1) ++ [t.length])
    | .super => some (0, (runes s).map (·.1) ++ [s.length])
    | .single =>
      ((runes s).find? fun (_, r) => r != separator).map fun (i, r) => (i, [runeLength r])
    | .list cs negated =>
      ((runes s).find? fun (_, r) => negated == !cs.contains r).map fun (i, r) => (i, [runeLength r])
    | .range lo hi negated =>
      ((runes s).find? fun (_, r) => negated != (lo ≤ r && r ≤ hi)).map fun (i, r) =>
        (i, [runeLength r])
    | .anyOf ms => earliest (ms.map fun m => Matcher.index fuel m s)
    | .everyOf ms => everyIndex s (ms.map fun m => fun t => Matcher.index fuel m t) 0 [] true
    | .atLeast n =>
      if s.length + 1 ≤ n then none
      else
        let ends := ((runes s).zipIdx.filter fun (_, k) => n ≤ k + 1).map fun ((i, r), _) =>
          i + runeLength r
        if ends.isEmpty then none else some (0, ends)
    | .atMost n => some (0, 0 :: ((runes s).take n).map fun (i, r) => i + runeLength r)
    | .contains needle negated =>
      let found := indexOf s needle
      if !negated then
        match found with
        | none => none
        | some i =>
          let offset := i + needle.length
          if s.length ≤ offset then some (0, [offset])
          else
            let t := s.drop offset
            some (0, (runes t).map (fun (j, _) => offset + j) ++ [offset + t.length])
      else
        let t := match found with
          | some i => s.take i
          | none => s
        some (0, (runes t).map (·.1) ++ [t.length])
    | .begins head =>
      (indexOf s head).map fun i =>
        let rest := s.drop (i + head.length)
        (i, head.length :: (runes rest).map fun (j, r) => head.length + j + runeLength r)
    | .ends last => (indexOf s last).map fun i => (0, [i + last.length])
    | .beginsEnds head last =>
      match indexOf s head with
      | none => none
      | some i =>
        if last.isEmpty then some (i, [s.length - i])
        else if s.length ≤ i then none
        else
          let ends := lastEnds last (s.drop i) (s.length - i + 1)
          if ends.isEmpty then none else some (i, ends)
    | .beginsThenAny head =>
      (indexOf s head).map fun i =>
        let rest := s.drop (i + head.length)
        let rest := match separatorIndex rest with
          | some k => rest.take k
          | none => rest
        (i, head.length :: (runes rest).map fun (j, r) => head.length + j + runeLength r)
    | .anyThenEnds last =>
      (indexOf s last).map fun i =>
        let start := match lastSeparatorIndex (s.take i) with
          | some k => k + 1
          | none => 0
        (start, [i + last.length - start])
    | .row n ms =>
      rowIndex n (rowMatchAll (ms.map fun m => (m.len, fun t => Matcher.matches fuel m t))) s
    | .tree .. => none

end

end NativeExports.Glob

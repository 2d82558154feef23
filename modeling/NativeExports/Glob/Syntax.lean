import NativeExports.Text.Bytes
/-!
The syntax of glob patterns.

A pattern is a sequence of parts: literal text, `*` (any run of characters without a
separator), `**` (any run of characters), `?` (one character other than a separator), a
character class `[...]` (listed characters, or one range `lo-hi`, negated by a leading `!`),
and a choice `{a,b,...}` of patterns, which may nest.  A backslash makes the next character
literal.  A class that is not closed, or that holds neither characters nor one range, is an
error; a choice left open at the end of the pattern ends there.

The text is cut into tokens, one item at a time, and the tokens are read into a tree.  A
character that is no valid UTF-8 (the replacement character, or a stray byte) ends the
reading: the item being read is lost, and the pattern is refused with "could not read rune",
or with "unexpected end of input" when the item was a class.
-/

namespace NativeExports.Glob

/-- The syntax tree of a pattern. -/
inductive Node where
  /-- Parts that follow one another. -/
  | pattern (parts : List Node)
  /-- One of several patterns. -/
  | anyOf (alternatives : List Node)
  /-- Literal characters. -/
  | text (cs : List Char)
  /-- Any run of characters without a separator. -/
  | any
  /-- Any run of characters. -/
  | super
  /-- One character other than a separator. -/
  | single
  /-- One character of a list, or not of it. -/
  | list (cs : List Char) (negated : Bool)
  /-- One character of a range, or not of it. -/
  | range (lo hi : Char) (negated : Bool)
  /-- The empty text only; made when alternatives are simplified. -/
  | nothing
  deriving Repr, Inhabited, BEq

/-- The separator of path parts. -/
def separator : Char := '/'

/-! Tokens -/

/-- A token of a pattern's text. -/
inductive Token where
  | text (cs : List Char)
  | any
  | super
  | single
  | classOpen
  | negation
  | low (c : Char)
  | high (c : Char)
  | classClose
  | choiceOpen
  | choiceNext
  | choiceClose
  | failure (message : String)
  deriving Repr, Inhabited

/-- Whether a character is no valid UTF-8: the replacement character, or a stray byte. -/
def unreadable (c : Char) : Bool := c = Text.replacementChar || (Text.stray? c).isSome

/-- Reads literal text up to a character that breaks it; a backslash takes the next
character as it is.  Gives the text and what follows it. -/
def readText (breaks : List Char) : List Char → List Char × List Char
  | [] => ([], [])
  | '\\' :: [] => ([], [])
  | '\\' :: c :: rest =>
    let (t, r) := readText breaks rest
    (c :: t, r)
  | c :: rest =>
    if breaks.contains c then ([], c :: rest)
    else
      let (t, r) := readText breaks rest
      (c :: t, r)

/-- The characters that end literal text outside a choice. -/
def textBreaks : List Char := ['?', '*', '[', '{']

/-- The characters that end literal text inside a choice. -/
def choiceBreaks : List Char := textBreaks ++ ['}', ',']

/-- Reads the inside of a character class, after its opening bracket.  Gives the tokens and
what follows the class, or none when reading stopped at an error (the last token). -/
def readClass : Nat → Bool → List Char → List Token × Option (List Char)
  | 0, _, _ => ([.failure "unexpected end of input"], none)
  | _ + 1, _, [] => ([.failure "unexpected end of input"], none)
  | fuel + 1, seenNot, c :: rest =>
    if !seenNot && c == '!' then
      let (ts, r) := readClass fuel true rest
      (.negation :: ts, r)
    else match rest with
      | '-' :: [] => ([.low c, .failure "unexpected end of input"], none)
      | '-' :: h :: after =>
        match after with
        | [] => ([.low c, .high h, .failure "unexpected end of input"], none)
        | ']' :: more => ([.low c, .high h, .classClose], some more)
        | _ => ([.low c, .high h, .failure "expected close range character"], none)
      | _ =>
        let (t, r) := readText [']'] (c :: rest)
        let ts := if t.isEmpty then [] else [Token.text t]
        match r with
        | [] => (ts ++ [.failure "unexpected end of input"], none)
        | ']' :: more => (ts ++ [.classClose], some more)
        | _ => (ts ++ [.failure "expected close range character"], none)

/-- The tokens of the readable part of a pattern, ending at the first error.  `depth` counts
the choices open; `cut` tells that an unreadable character ended the text. -/
def tokens (cut : Bool) : Nat → Nat → List Char → List Token
  | 0, _, _ => []
  | _ + 1, _, [] => if cut then [.failure "could not read rune"] else []
  | fuel + 1, depth, c :: rest =>
    if c == '{' then .choiceOpen :: tokens cut fuel (depth + 1) rest
    else if c == ',' && depth > 0 then .choiceNext :: tokens cut fuel depth rest
    else if c == '}' && depth > 0 then .choiceClose :: tokens cut fuel (depth - 1) rest
    else if c == '[' then
      let (ts, after) := readClass (rest.length + 1) false rest
      match after with
      | none => .classOpen :: ts
      | some more => .classOpen :: ts ++ tokens cut fuel depth more
    else if c == '?' then .single :: tokens cut fuel depth rest
    else if c == '*' then
      match rest with
      | '*' :: more => .super :: tokens cut fuel depth more
      | _ => .any :: tokens cut fuel depth rest
    else
      let (t, r) := readText (if depth > 0 then choiceBreaks else textBreaks) (c :: rest)
      if t.isEmpty then tokens cut fuel depth r else .text t :: tokens cut fuel depth r

/-! The tree -/

/-- What a character class reads as, from its tokens up to the closing bracket.  A bound
that was not given is NUL. -/
structure ClassParts where
  negated : Bool := false
  low : Char := '\x00'
  high : Char := '\x00'
  chars : List Char := []

/-- The node a finished class makes: a range when both bounds are given (and are not NUL),
a list when characters are, and an error when it is both or neither. -/
def ClassParts.node (p : ClassParts) : Except String Node :=
  let isRange := p.low.toNat != 0 && p.high.toNat != 0
  if isRange == !p.chars.isEmpty then .error "could not parse range"
  else if isRange then .ok (.range p.low p.high p.negated)
  else .ok (.list p.chars p.negated)

/-- A choice being read: the alternatives finished so far and the parts before it. -/
structure OpenChoice where
  finished : List Node
  before : List Node

/-- Closes every open choice around the current parts. -/
def closeAll : List OpenChoice → List Node → List Node
  | [], cur => cur
  | c :: outer, cur => closeAll outer (c.before ++ [.anyOf (c.finished ++ [.pattern cur])])

/-- Builds the tree from tokens, with the choices open and the parts of the current pattern. -/
def build : List Token → List OpenChoice → List Node → Except String Node
  | [], stack, cur => .ok (.pattern (closeAll stack cur))
  | .failure m :: _, _, _ => .error m
  | .text t :: rest, stack, cur => build rest stack (cur ++ [.text t])
  | .any :: rest, stack, cur => build rest stack (cur ++ [.any])
  | .super :: rest, stack, cur => build rest stack (cur ++ [.super])
  | .single :: rest, stack, cur => build rest stack (cur ++ [.single])
  | .choiceOpen :: rest, stack, cur => build rest (⟨[], cur⟩ :: stack) []
  | .choiceNext :: rest, stack, cur =>
    match stack with
    | top :: outer => build rest ({ top with finished := top.finished ++ [.pattern cur] } :: outer) []
    | [] => build rest [] cur
  | .choiceClose :: rest, stack, cur =>
    match stack with
    | top :: outer => build rest outer (top.before ++ [.anyOf (top.finished ++ [.pattern cur])])
    | [] => build rest [] cur
  | .classOpen :: rest, stack, cur => buildClass rest {} stack cur
  | _ :: rest, stack, cur => build rest stack cur
where
  /-- Reads the tokens of a class, then goes on with the pattern. -/
  buildClass : List Token → ClassParts → List OpenChoice → List Node → Except String Node
    | [], _, _, _ => .error "unexpected end"
    | .failure m :: _, _, _, _ => .error m
    | .negation :: rest, p, stack, cur => buildClass rest { p with negated := true } stack cur
    | .low c :: rest, p, stack, cur => buildClass rest { p with low := c } stack cur
    | .high c :: rest, p, stack, cur =>
      if c < p.low then
        .error ("hi character \x27" ++ String.singleton c ++ "\x27 should be greater than lo \x27" ++
          String.singleton p.low ++ "\x27")
      else buildClass rest { p with high := c } stack cur
    | .text t :: rest, p, stack, cur => buildClass rest { p with chars := t } stack cur
    | .classClose :: rest, p, stack, cur => do
      let node ← p.node
      build rest stack (cur ++ [node])
    | _ :: rest, p, stack, cur => buildClass rest p stack cur

/-- Reads a pattern into its tree. -/
def parse (pattern : String) : Except String Node :=
  let (readable, rest) := pattern.toList.span fun c => !unreadable c
  build (tokens (!rest.isEmpty) (readable.length + 1) 0 readable) [] []

end NativeExports.Glob

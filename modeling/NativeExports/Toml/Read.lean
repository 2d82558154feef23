import NativeExports.Toml.Lexer
import NativeExports.Toml.Value
import NativeExports.Text.Integer
import NativeExports.Text.Bytes
/-!
Reading TOML documents.

The items of the lexer are read in order into a tree of tables.  The reader keeps the open
table (the context: the path of the last header, extended by the dotted parts of the key being
read and by the inline tables it is inside), the last part of the key being read, the keys
defined so far in order, and for each key shown as text the line where it was last given a
value and whether that value was an array.  A fault names the line and the key being read.

How the tree grows:
* a header `[a.b]` walks the tables `a.b` names, making the missing ones (and remembering them
  as made only in passing), and then defines its last part as a new table; `[[a.b]]` adds a
  table to the array of tables at its last part;
* a walk may go through a table or the last table of an array of tables; anything else on the
  way is a fault;
* an assignment `a.b = v` walks its dotted parts the way a header does and puts `v` under its
  last part;
* a key may not be defined twice, except that a key whose last value was an array may be given
  another value, and a table made only in passing may be defined once;
* an inline table opens its key as the context while its pairs are read; inside an array, it
  adds a table to an array of tables under the array's key, until the array itself replaces it.

The value of an inline table keeps only the last part of each of its keys.
-/

namespace NativeExports.Toml

/-- Why a text is not a TOML document: the line, the key being read, and what went wrong. -/
structure ParseError where
  line : Nat
  lastKey : String
  message : String
  deriving Repr, Inhabited

/-- The text of a parse error. -/
def ParseError.text (e : ParseError) : String :=
  if e.lastKey.isEmpty then "toml: line " ++ toString e.line ++ ": " ++ e.message
  else "toml: line " ++ toString e.line ++ " (last key " ++ Text.quote e.lastKey ++ "): " ++ e.message

/-! The table tree -/

/-- A node of the table tree: a value, a table, or an array of tables. -/
inductive Node where
  | leaf (v : Value)
  | table (entries : List (String × Node))
  | tables (items : List (List (String × Node)))
  deriving Inhabited

/-- The entries of a table of the tree. -/
abbrev Entries := List (String × Node)

mutual

/-- A value as a node: tables become tables of the tree. -/
def nodeOfValue : Value → Node
  | .table es => .table (nodesOfEntries es)
  | .tables items => .tables (nodesOfTables items)
  | v => .leaf v

/-- Entries of values as entries of nodes. -/
def nodesOfEntries : List (String × Value) → Entries
  | [] => []
  | (k, v) :: rest => (k, nodeOfValue v) :: nodesOfEntries rest

/-- Tables of values as tables of nodes. -/
def nodesOfTables : List (List (String × Value)) → List Entries
  | [] => []
  | es :: rest => nodesOfEntries es :: nodesOfTables rest

end

mutual

/-- A node as a value. -/
def Node.toValue : Node → Value
  | .leaf v => v
  | .table es => .table (valuesOfEntries es)
  | .tables items => .tables (valuesOfTables items)

/-- Entries of nodes as entries of values. -/
def valuesOfEntries : Entries → List (String × Value)
  | [] => []
  | (k, n) :: rest => (k, n.toValue) :: valuesOfEntries rest

/-- Tables of an array as tables of values. -/
def valuesOfTables : List Entries → List (List (String × Value))
  | [] => []
  | es :: rest => valuesOfEntries es :: valuesOfTables rest

end

/-- The node under a key of a table. -/
def nodeIn (es : Entries) (k : String) : Option Node := (es.find? (·.1 == k)).map (·.2)

/-- Puts a node under a key: in place of the one there, or at the end. -/
def putIn {α : Type} (es : List (String × α)) (k : String) (n : α) : List (String × α) :=
  if es.any (·.1 == k) then es.map fun (k', x) => if k' == k then (k', n) else (k', x)
  else es ++ [(k, n)]

/-- What a walk down a path of keys meets. -/
inductive Reach where
  /-- The table at the end of the path. -/
  | found (es : Entries)
  /-- The path up to a key with nothing under it. -/
  | missing (path : KeyPath)
  /-- The path up to a key whose node is no table. -/
  | blocked (path : KeyPath)

/-- Walks down a path through tables and the last table of arrays of tables; `done` is the
path walked so far. -/
def reach (done : KeyPath) : KeyPath → Entries → Reach
  | [], es => .found es
  | k :: rest, es =>
    match nodeIn es k with
    | none => .missing (done ++ [k])
    | some (.table sub) => reach (done ++ [k]) rest sub
    | some (.tables items) => match items.getLast? with
      | some last => reach (done ++ [k]) rest last
      | none => .blocked (done ++ [k])
    | some (.leaf _) => .blocked (done ++ [k])

/-- Changes the table at a path by `f`, walking the way `reach` does; nothing changes when
the path leads nowhere. -/
def changeAt (f : Entries → Entries) : KeyPath → Entries → Entries
  | [], es => f es
  | k :: rest, es =>
    match nodeIn es k with
    | some (.table sub) => putIn es k (.table (changeAt f rest sub))
    | some (.tables items) => match items.getLast? with
      | some last => putIn es k (.tables (items.dropLast ++ [changeAt f rest last]))
      | none => es
    | _ => es

/-! The reader -/

/-- What is remembered of a key's last value: its line, and whether it was an array. -/
structure KeyInfo where
  line : Nat
  isArray : Bool
  deriving Inhabited

/-- The state of the reader. -/
structure Reader where
  /-- The items not read yet. -/
  rest : List Item
  context : KeyPath
  /-- The last part of the key being read, or empty between keys. -/
  currentKey : String
  /-- The line of the last key or header read. -/
  line : Nat
  /-- The keys defined so far, in order. -/
  ordered : Array KeyPath
  /-- What is known of each key shown as text, most recent first. -/
  info : List (String × KeyInfo)
  /-- The tables made only in passing, shown as text. -/
  implicits : List String
  root : Entries

/-- A step of the reader. -/
abbrev Parse := StateT Reader (Except ParseError)

/-- The key being read, as faults name it: the context shown as text, then the last part as
it is. -/
def Reader.current (r : Reader) : String :=
  if r.currentKey.isEmpty then showKey r.context
  else if r.context.isEmpty then r.currentKey
  else showKey r.context ++ "." ++ r.currentKey

/-- Fails on a line. -/
def failOn {α : Type} (line : Nat) (msg : String) : Parse α := do
  throw ⟨line, (← get).current, msg⟩

/-- Fails on the line of the last key or header read. -/
def failHere {α : Type} (msg : String) : Parse α := do
  failOn (← get).line msg

/-- The next item; a fault item fails. -/
def pull : Parse Item := do
  let r ← get
  match r.rest with
  | [] => pure ⟨.eof, "", r.line⟩
  | it :: rest =>
    set { r with rest := rest }
    if it.kind = .fault then failOn it.line it.text
    pure it

/-- The next item, which becomes the position of the faults that follow. -/
def pullPos : Parse Item := do
  let it ← pull
  modify fun r => { r with line := it.line }
  pure it

/-- Whether the last value of a key was an array. -/
def isArrayKey (path : KeyPath) : Parse Bool := do
  pure ((((← get).info.lookup (showKey path)).map (·.isArray)).getD false)

/-- Whether a table was made only in passing. -/
def isImplicit (path : KeyPath) : Parse Bool := do pure ((← get).implicits.contains (showKey path))

/-- Remembers a table as made only in passing. -/
def addImplicit (path : KeyPath) : Parse Unit :=
  modify fun r => { r with implicits := showKey path :: r.implicits }

/-- Forgets that a table was made only in passing. -/
def removeImplicit (path : KeyPath) : Parse Unit :=
  modify fun r => { r with implicits := r.implicits.filter (· != showKey path) }

/-- Remembers a key's line and whether its value is an array; an empty key names the context. -/
def setType (key : String) (isArray : Bool) (line : Nat) : Parse Unit :=
  modify fun r =>
    let path := if key.isEmpty then r.context else r.context ++ [key]
    let path := if path.isEmpty then [""] else path
    { r with info := (showKey path, ⟨line, isArray⟩) :: r.info }

/-- Puts a node under a key of the context table. -/
def setValue (key : String) (n : Node) : Parse Unit := do
  let r ← get
  match reach [] r.context r.root with
  | .blocked path => failHere ("Key \x27" ++ showKey path ++ "\x27 has already been defined.")
  | .missing path => failHere ("Context for key \x27" ++ showKey path ++ "\x27 has not been established.")
  | .found es =>
    let full := r.context ++ [key]
    let write : Parse Unit := modify fun r => { r with root := changeAt (putIn · key n) r.context r.root }
    match nodeIn es key with
    | none => write
    | some _ =>
      if ← isArrayKey full then
        removeImplicit full
        write
      else if ← isImplicit full then removeImplicit full
      else failHere ("Key \x27" ++ showKey full ++ "\x27 has already been defined.")

/-- Walks the tables of a path, making the missing ones (made in passing) and stopping at
anything else; `done` is the path walked so far. -/
def walkMaking (done : KeyPath) : KeyPath → Parse Unit
  | [] => pure ()
  | k :: rest => do
    let path := done ++ [k]
    let r ← get
    match reach [] path r.root with
    | .missing _ =>
      addImplicit path
      modify fun r => { r with root := changeAt (putIn · k (.table [])) done r.root }
    | .found _ => pure ()
    | .blocked _ => failHere ("Key \x27" ++ showKey path ++ "\x27 was already created as a hash.")
    walkMaking path rest

/-- Opens the table at a path as the context: walks to it, then defines it as a table, or adds
a table to the array of tables there. -/
def addContext (path : KeyPath) (array : Bool) : Parse Unit := do
  let pre := path.dropLast
  let last := path.getLast?.getD ""
  walkMaking [] pre
  modify fun r => { r with context := pre }
  if array then
    let r ← get
    let es := match reach [] pre r.root with
      | .found es => es
      | _ => []
    match nodeIn es last with
    | none => modify fun r => { r with root := changeAt (putIn · last (.tables [[]])) pre r.root }
    | some (.tables items) =>
      modify fun r => { r with root := changeAt (putIn · last (.tables (items ++ [[]]))) pre r.root }
    | some _ => failHere ("Key \x27" ++ showKey path ++ "\x27 was already created and cannot be used as an array.")
  else setValue last (.table [])
  modify fun r => { r with context := pre ++ [last] }

/-- Opens a dotted part of a key as the context, remembering it as made in passing. -/
def addImplicitContext (path : KeyPath) : Parse Unit := do
  addImplicit path
  addContext path false

/-- Sets a value under a key of the context and remembers its line. -/
def setKey (key : String) (v : Value) (isArray : Bool) (line : Nat) : Parse Unit := do
  setValue key (nodeOfValue v)
  setType key isArray line

/-! Values -/

/-- The value of exactly `n` decimal digits at the start, with the rest. -/
def fixedDigits (n : Nat) (cs : List Char) : Option (Nat × List Char) :=
  let ds := cs.take n
  if ds.length = n && ds.all isDecimal then
    some (ds.foldl (fun acc c => acc * 10 + (c.toNat - 48)) 0, cs.drop n)
  else none

/-- One or two decimal digits at the start, with the rest. -/
def shortDigits : List Char → Option (Nat × List Char)
  | a :: b :: rest =>
    if !isDecimal a then none
    else if isDecimal b then some ((a.toNat - 48) * 10 + (b.toNat - 48), rest)
    else some (a.toNat - 48, b :: rest)
  | [a] => if isDecimal a then some (a.toNat - 48, []) else none
  | [] => none

/-- Passes over one expected character. -/
def literal (c : Char) : List Char → Option (List Char)
  | d :: rest => if c = d then some rest else none
  | [] => none

/-- The number of days in a month. -/
def daysIn (year month : Nat) : Nat :=
  if month = 2 then
    if (year % 4 = 0 && year % 100 ≠ 0) || year % 400 = 0 then 29 else 28
  else if month = 4 || month = 6 || month = 9 || month = 11 then 30 else 31

/-- A date `YYYY-MM-DD` at the start, with the rest; the month must exist. -/
def readDate (cs : List Char) : Option ((Nat × Nat × Nat) × List Char) := do
  let (y, r) ← fixedDigits 4 cs
  let r ← literal '-' r
  let (m, r) ← fixedDigits 2 r
  if m = 0 || m > 12 then none
  let r ← literal '-' r
  let (d, r) ← fixedDigits 2 r
  pure ((y, m, d), r)

/-- A time `H:MM:SS` or `HH:MM:SS`, with the digits of a fraction after a point, at the start,
with the rest. -/
def readClock (cs : List Char) : Option ((Nat × Nat × Nat × List Char) × List Char) := do
  let (h, r) ← shortDigits cs
  if h ≥ 24 then none
  let r ← literal ':' r
  let (mi, r) ← fixedDigits 2 r
  if mi ≥ 60 then none
  let r ← literal ':' r
  let (s, r) ← fixedDigits 2 r
  if s ≥ 60 then none
  match r with
  | '.' :: d :: rest =>
    if isDecimal d then
      let ds := (d :: rest).takeWhile isDecimal
      pure ((h, mi, s, ds), (d :: rest).drop ds.length)
    else pure ((h, mi, s, []), r)
  | _ => pure ((h, mi, s, []), r)

/-- An offset `Z` or `±HH:MM` at the start, in minutes east, with whether it was `Z`, and the
rest. -/
def readZone : List Char → Option ((Int × Bool) × List Char)
  | 'Z' :: rest => some ((0, true), rest)
  | sign :: h1 :: h2 :: ':' :: m1 :: m2 :: rest => do
    let (h, _) ← fixedDigits 2 [h1, h2]
    let (m, _) ← fixedDigits 2 [m1, m2]
    if h > 24 || m > 60 then none
    let total : Int := h * 60 + m
    if sign = '+' then pure ((total, false), rest)
    else if sign = '-' then pure ((-total, false), rest)
    else none
  | _ => none

/-- A date-time in one of the four accepted shapes: date, time and offset; date and time;
date; time.  The date must exist. -/
def readDateTime (cs : List Char) : Option DateTime :=
  let dated (y m d : Nat) (dt : DateTime) : Option DateTime :=
    if d ≥ 1 && d ≤ daysIn y m then some dt else none
  let withOffset : Option DateTime := do
    let ((y, m, d), r) ← readDate cs
    let r ← literal 'T' r
    let ((h, mi, s, f), r) ← readClock r
    let ((o, utc), r) ← readZone r
    if !r.isEmpty then none
    dated y m d ⟨.offsetDateTime, y, m, d, h, mi, s, f, o, utc⟩
  let plain : Option DateTime := do
    let ((y, m, d), r) ← readDate cs
    let r ← literal 'T' r
    let ((h, mi, s, f), r) ← readClock r
    if !r.isEmpty then none
    dated y m d ⟨.localDateTime, y, m, d, h, mi, s, f, 0, false⟩
  let date : Option DateTime := do
    let ((y, m, d), r) ← readDate cs
    if !r.isEmpty then none
    dated y m d ⟨.localDate, y, m, d, 0, 0, 0, [], 0, false⟩
  let clock : Option DateTime := do
    let ((h, mi, s, f), r) ← readClock cs
    if !r.isEmpty then none
    pure ⟨.localTime, 0, 1, 1, h, mi, s, f, 0, false⟩
  withOffset <|> plain <|> date <|> clock

/-- The text of a date-time item with `z`, `t` and spaces written as `Z`, `T` and `T`. -/
def normalDateTime (s : String) : List Char :=
  s.toList.map fun c => if c = 'z' then 'Z' else if c = 't' || c = ' ' then 'T' else c

/-- Whether every underscore stands between two characters that are not underscores, and the
number does not end in one; the special floats pass. -/
def underscoresOk (s : List Char) : Bool :=
  if ["nan", "+nan", "-nan", "inf", "-inf", "+inf"].contains (String.ofList s) then true
  else
    let rec go : List Char → Bool → Bool
      | [], accept => accept
      | c :: rest, accept => if c = '_' && !accept then false else go rest (isHexDigit c)
    go s false

/-- Whether every point is followed by a digit. -/
def pointsOk : List Char → Bool
  | [] => true
  | '.' :: c :: rest => isDecimal c && pointsOk (c :: rest)
  | ['.'] => false
  | _ :: rest => pointsOk rest

/-- Whether a number starts with a zero that is not alone, after an optional sign, other than
before a base letter. -/
def leadingZero : List Char → Bool
  | '0' :: c :: _ => c ≠ 'b' && c ≠ 'o' && c ≠ 'x'
  | s :: '0' :: _ :: _ => s = '-' || s = '+'
  | _ => false

/-- The value of an integer item. -/
def integerValue (text : String) : Except String Value := do
  let cs := text.toList
  if !underscoresOk cs then
    throw ("Invalid integer " ++ Text.quote text ++ ": underscores must be surrounded by digits")
  if leadingZero cs then throw ("Invalid integer " ++ Text.quote text ++ ": cannot have leading zeroes")
  match Text.readPrefixedInteger text with
  | .ok n => pure (.integer n)
  | .error .outOfRange => throw (text ++ " is out of range for int64")
  | .error .malformed => throw ("Expected integer value, but got \x27" ++ text ++ "\x27.")

/-- Whether a decimal is too large for a double: at least the halfway point above the
largest finite one. -/
def overflowsDouble (digits : Nat) (exponent : Int) : Bool :=
  let limit := Nat.pow 2 1024 - Nat.pow 2 970
  let size := (Nat.toDigits 10 digits).length
  if digits = 0 then false
  else if size + exponent > 310 then true
  else if size + exponent < 300 then false
  else if exponent ≥ 0 then digits * Nat.pow 10 exponent.toNat ≥ limit
  else digits ≥ limit * Nat.pow 10 exponent.natAbs

/-- The value of decimal digits. -/
def decimalValue (ds : List Char) : Nat := ds.foldl (fun acc c => acc * 10 + (c.toNat - 48)) 0

/-- Reads a decimal float: a sign, digits with at most one point, and an exponent. -/
def readDecimalFloat (cs : List Char) : Option Float :=
  let (neg, body) := match cs with
    | '-' :: r => (true, r)
    | '+' :: r => (false, r)
    | r => (false, r)
  let intPart := body.takeWhile isDecimal
  let afterInt := body.drop intPart.length
  let (fracPart, afterFrac) := match afterInt with
    | '.' :: r => (r.takeWhile isDecimal, r.drop (r.takeWhile isDecimal).length)
    | r => ([], r)
  if intPart.isEmpty && fracPart.isEmpty then none
  else
    let expResult : Option Int := match afterFrac with
      | [] => some 0
      | e :: r =>
        if e = 'e' || e = 'E' then
          let (eneg, ds) := match r with
            | '-' :: d => (true, d)
            | '+' :: d => (false, d)
            | d => (false, d)
          if ds.isEmpty || !ds.all isDecimal then none
          else some (if eneg then -(decimalValue ds : Int) else decimalValue ds)
        else none
    expResult.map fun e => .finite neg (decimalValue (intPart ++ fracPart)) (e - fracPart.length)

/-- The value of a float item. -/
def floatValue (text : String) : Except String Value := do
  let cs := text.toList
  let parts := (cs.splitOnP fun c => c = '.' || c = 'e' || c = 'E').filter (!·.isEmpty)
  if parts.any (!underscoresOk ·) then
    throw ("Invalid float " ++ Text.quote text ++ ": underscores must be surrounded by digits")
  if (parts.head?.map leadingZero).getD false then
    throw ("Invalid float " ++ Text.quote text ++ ": cannot have leading zeroes")
  if !pointsOk cs then
    throw ("Invalid float " ++ Text.quote text ++ ": \x27.\x27 must be followed by one or more digits")
  let plain := cs.filter (· ≠ '_')
  let body := match plain with
    | '-' :: r => r
    | '+' :: r => r
    | r => r
  let neg := plain.head? = some '-'
  if body = ['i', 'n', 'f'] then return .float (.infinite neg)
  if body = ['n', 'a', 'n'] then return .float .nan
  match readDecimalFloat plain with
  | some (.finite n digits e) =>
    if overflowsDouble digits e then throw (text ++ " is out of range for float64")
    pure (.float (.finite n digits e))
  | _ => throw ("Invalid float value: " ++ Text.quote text)

/-- Drops a line break right after the opening quotes of a multi-line string. -/
def dropFirstBreak : List Char → List Char
  | '\n' :: rest => rest
  | '\r' :: '\n' :: rest => rest
  | cs => cs

/-- Removes each backslash that ends a line, with the blanks and line breaks after it. -/
def joinContinued : List Char → List Char
  | [] => []
  | '\\' :: '\\' :: rest => '\\' :: '\\' :: joinContinued rest
  | '\\' :: rest =>
    let gap := rest.takeWhile fun c => c = ' ' || c = '\t' || c = '\r' || c = '\n'
    if gap.isEmpty || !gap.contains '\n' then '\\' :: joinContinued rest
    else joinContinued (rest.drop gap.length)
  | c :: rest => c :: joinContinued rest
termination_by cs => cs.length
decreasing_by
  all_goals simp only [List.length_drop, List.length_cons]
  all_goals omega

/-- The character a Unicode escape names, when it is a character. -/
def escapedChar (digits : List Char) : Except String Char :=
  let n := digits.foldl (fun acc c => acc * 16 + Text.digitValue c) 0
  if n ≤ 0x10ffff && !(0xd800 ≤ n && n ≤ 0xdfff) then .ok (Char.ofNat n)
  else .error ("Escaped character \x27\\u" ++ String.ofList digits ++ "\x27 is not valid UTF-8.")

/-- Replaces the escapes of a basic string by the characters they stand for. -/
def unescape : List Char → Except String (List Char)
  | [] => .ok []
  | '\\' :: c :: rest =>
    let simple (x : Char) : Except String (List Char) := do pure (x :: (← unescape rest))
    if c = ' ' || c = '\t' then .error ("invalid escape: \x27\\" ++ String.singleton c ++ "\x27")
    else if c = 'b' then simple '\x08'
    else if c = 't' then simple '\t'
    else if c = 'n' then simple '\n'
    else if c = 'f' then simple '\x0c'
    else if c = 'r' then simple '\r'
    else if c = '"' then simple '"'
    else if c = '\\' then simple '\\'
    else if c = 'u' then do
      let x ← escapedChar (rest.take 4)
      pure (x :: (← unescape (rest.drop 4)))
    else if c = 'U' then do
      let x ← escapedChar (rest.take 8)
      pure (x :: (← unescape (rest.drop 8)))
    else .error ("Expected valid escape code after \\, but got " ++ Text.quoteRune c ++ ".")
  | c :: rest => do pure (c :: (← unescape rest))
termination_by cs => cs.length
decreasing_by
  all_goals simp only [List.length_drop, List.length_cons]
  all_goals omega

/-- The text a string item stands for. -/
def stringValue (it : Item) : Except String String :=
  match it.kind with
  | .basicString => (unescape it.text.toList).map String.ofList
  | .multilineString => (unescape (joinContinued (dropFirstBreak it.text.toList))).map String.ofList
  | .rawMultilineString => .ok (String.ofList (dropFirstBreak it.text.toList))
  | _ => .ok it.text

/-- The text of a key part item. -/
def keyPart (it : Item) : Parse String :=
  match stringValue it with
  | .ok s => pure s
  | .error msg => failOn it.line msg

/-- Reads the parts of a key up to its end item, the first part given. -/
def keyParts (first : Item) : Nat → List String → Parse KeyPath
  | 0, acc => pure acc.reverse
  | fuel + 1, acc => do
    let it := first
    if it.kind = .keyEnd || it.kind = .eof then return acc.reverse
    let part ← keyPart it
    keyParts (← pull) fuel (part :: acc)

/-- Reads the parts of a header up to its closing item `close`, the first part given. -/
def headerParts (close : ItemKind) (first : Item) : Nat → List String → Parse KeyPath
  | 0, acc => pure acc.reverse
  | fuel + 1, acc => do
    if first.kind = close || first.kind = .eof then return acc.reverse
    let part ← keyPart first
    headerParts close (← pull) fuel (part :: acc)

/-- Opens each dotted part of a key in turn as a table made in passing. -/
def openDotted : KeyPath → Parse Unit
  | [] => pure ()
  | part :: rest => do
    addImplicitContext ((← get).context ++ [part])
    openDotted rest

/-- Passes over the text of a comment. -/
def skipCommentText : Parse Unit := do let _ ← pull

mutual

/-- The value an item starts, and whether it is an array; `inArray` tells whether it stands
in an array. -/
def readValue : Nat → Item → Bool → Parse (Value × Bool)
  | 0, it, _ => failOn it.line "value nested too deeply"
  | fuel + 1, it, inArray =>
    match it.kind with
    | .basicString | .multilineString | .rawString | .rawMultilineString =>
      match stringValue it with
      | .ok s => pure (.text s, false)
      | .error msg => failOn it.line msg
    | .integer => match integerValue it.text with
      | .ok v => pure (v, false)
      | .error msg => failOn it.line msg
    | .float => match floatValue it.text with
      | .ok v => pure (v, false)
      | .error msg => failOn it.line msg
    | .boolean => pure (.boolean (it.text = "true"), false)
    | .dateTime =>
      let norm := normalDateTime it.text
      match readDateTime norm with
      | some d => pure (.dateTime d, false)
      | none => failOn it.line ("Invalid TOML Datetime: " ++ Text.quote (String.ofList norm) ++ ".")
    | .arrayStart => do
      setType (← get).currentKey true it.line
      pure (← readItems fuel [], true)
    | .inlineTableStart => do
      let r ← get
      let outerContext := r.context
      let outerKey := r.currentKey
      let inner := r.context ++ [r.currentKey]
      modify fun r => { r with context := inner, currentKey := "" }
      addImplicit inner
      addContext inner inArray
      let entries ← readPairs fuel inner []
      modify fun r => { r with context := outerContext, currentKey := outerKey }
      pure (.table entries, false)
    | _ => failOn it.line "Unexpected value type"

/-- The items of an array after its opening bracket. -/
def readItems : Nat → List Value → Parse Value
  | 0, _ => failHere "value nested too deeply"
  | fuel + 1, acc => do
    let it ← pull
    if it.kind = .arrayEnd then return .array acc.reverse
    if it.kind = .commentStart then
      skipCommentText
      return ← readItems fuel acc
    let (v, _) ← readValue fuel it true
    readItems fuel (v :: acc)

/-- The pairs of an inline table after its opening brace; `inner` is its path.  Each pair is
set under its key, and its value kept under the key's last part. -/
def readPairs : Nat → KeyPath → List (String × Value) → Parse (List (String × Value))
  | 0, _, _ => failHere "value nested too deeply"
  | fuel + 1, inner, acc => do
    let it ← pull
    if it.kind = .inlineTableEnd then return acc
    if it.kind = .commentStart then
      skipCommentText
      return ← readPairs fuel inner acc
    let key ← keyParts (← pullPos) fuel []
    let last := key.getLast?.getD ""
    modify fun r => { r with currentKey := last }
    openDotted key.dropLast
    modify fun r => { r with ordered := r.ordered.push (r.context ++ [last]) }
    let (v, isArray) ← readValue fuel (← pull) false
    setKey last v isArray it.line
    modify fun r => { r with context := inner }
    readPairs fuel inner (putIn acc last v)

end

/-- Reads one top-level item: a comment, a header or an assignment. -/
def readTop (fuel : Nat) (it : Item) : Parse Unit := do
  match it.kind with
  | .commentStart => skipCommentText
  | .tableStart | .arrayTableStart =>
    let array := it.kind = .arrayTableStart
    let key ← headerParts (if array then .arrayTableEnd else .tableEnd) (← pullPos) fuel []
    addContext key array
    setType "" false it.line
    modify fun r => { r with ordered := r.ordered.push key }
  | .keyStart =>
    let outerContext := (← get).context
    let key ← keyParts (← pullPos) fuel []
    let last := key.getLast?.getD ""
    modify fun r => { r with currentKey := last }
    openDotted key.dropLast
    modify fun r => { r with ordered := r.ordered.push (r.context ++ [last]) }
    let v ← pull
    let (value, isArray) ← readValue fuel v false
    setKey last value isArray v.line
    modify fun r => { r with context := outerContext, currentKey := "" }
  | _ => failOn it.line "Unexpected type at top level"

/-- Reads top-level items until the end. -/
def readAll (fuel : Nat) : Nat → Parse Unit
  | 0 => pure ()
  | n + 1 => do
    let it ← pull
    if it.kind = .eof then return
    readTop fuel it
    readAll fuel n

/-- A TOML document: its root table, every key it defines in order, and the line where each
key shown as text was last given a value. -/
structure Document where
  root : List (String × Value)
  keys : List KeyPath
  lines : List (String × Nat)
  deriving Inhabited

/-- Whether a NUL is among the first six bytes of a text. -/
def nulNearStart (cs : List Char) : Bool :=
  let rec go : List Char → Nat → Bool
    | [], _ => false
    | c :: rest, offset => offset < 6 && (c = '\x00' || go rest (offset + Text.charByteSize c))
  go cs 0

/-- A text without its byte-order mark: the UTF-8 one, or the two bytes of a UTF-16 one in
either order. -/
def dropByteOrderMark (cs : List Char) : List Char :=
  match cs with
  | '\uFEFF' :: rest => rest
  | a :: b :: rest =>
    match Text.stray? a, Text.stray? b with
    | some 0xff, some 0xfe | some 0xfe, some 0xff => rest
    | _, _ => cs
  | _ => cs

/-- Reads a TOML document.  A byte-order mark at the start is passed over, and a NUL among
the first bytes after it tells a UTF-16 text. -/
def Document.parse (text : String) : Except ParseError Document :=
  let cs := dropByteOrderMark text.toList
  if nulNearStart cs then
    .error ⟨1, "", "files cannot contain NULL bytes; probably using UTF-16; TOML files must be UTF-8"⟩
  else
    let items := lexItems cs
    let fuel := 2 * items.length + 2
    let start : Reader := ⟨items, [], "", 0, #[], [], [], []⟩
    match (readAll fuel fuel).run start with
    | .error e => .error e
    | .ok (_, r) =>
      .ok ⟨valuesOfEntries r.root, r.ordered.toList, r.info.map fun (k, i) => (k, i.line)⟩

/-- Whether the document defines a path of keys through tables. -/
def Document.isDefined (d : Document) (path : KeyPath) : Bool :=
  let rec go : KeyPath → List (String × Value) → Bool
    | [], _ => true
    | [k], es => (lookup es k).isSome
    | k :: rest, es => match lookup es k with
      | some (.table sub) => go rest sub
      | _ => false
  !path.isEmpty && go path d.root

/-- The line where a key path was last given a value, 0 when it was not. -/
def Document.lineOf (d : Document) (path : KeyPath) : Nat :=
  (d.lines.lookup (showKey path)).getD 0

end NativeExports.Toml

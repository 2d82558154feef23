import NativeExports.Text.Letter
import NativeExports.Text.Bytes
import NativeExports.Text.Hex
import NativeExports.Toml.Value
/-!
Cutting a TOML text into items.

The lexer is a machine over a cursor: the text, the position of the character to read next,
the start of the item being read, the line, and a stack of modes to return to when a nested
part (a value, a key part, a comment) ends.  Each mode reads a few characters and names the
next mode; an item (a key part, a value, a bracket, a comment) is cut off from the item start
to the position when a mode emits it.  The first fault stops the machine and ends the items.

A fault is reported on the line of the cursor.  Two kinds of fault are reported on the line
before: those met right after reading the end of the text, and those about a line break just
read (a line break in a one-line text or inside an inline table).

Characters are read one at a time.  Reading a byte that is no valid UTF-8 (a stray byte, or
the replacement character, which stands for one), a control character (below U+0020 other
than tab, line feed and carriage return, or U+007F), or a carriage return not followed by a
line feed, is a fault.  Reading at the end gives NUL and marks the end as reached; stepping back over the
end only clears that mark.
-/

namespace NativeExports.Toml

/-- The kinds of items a TOML text is cut into. -/
inductive ItemKind where
  | eof
  /-- A bare key part, or the text of a comment. -/
  | text
  | basicString
  | rawString
  | multilineString
  | rawMultilineString
  | boolean
  | integer
  | float
  | dateTime
  | arrayStart
  | arrayEnd
  | tableStart
  | tableEnd
  | arrayTableStart
  | arrayTableEnd
  | keyStart
  | keyEnd
  | commentStart
  | inlineTableStart
  | inlineTableEnd
  /-- A fault; the text is its message. -/
  | fault
  deriving Repr, DecidableEq, Inhabited

/-- An item: its kind, its characters, and the line the cursor was on when it was cut. -/
structure Item where
  kind : ItemKind
  text : String
  line : Nat
  deriving Repr, Inhabited

/-- The modes of the lexer: what it is about to read. -/
inductive Mode where
  | top
  | topEnd
  | tableStart
  | tableEnd
  | arrayTableEnd
  | tableNameStart
  | tableNameEnd
  | bareName
  | quotedName
  | keyStart
  | keyNameStart
  | keyEnd
  | value
  | arrayValue
  | arrayValueEnd
  | arrayEnd
  | inlineValue
  | inlineValueEnd
  | inlineEnd
  | basicString
  | multilineString
  | rawString
  | multilineRawString
  | multilineEscape
  | escape
  | shortUnicode
  | longUnicode
  | numberOrDateStart
  | numberOrDate
  | dateTime
  | hexInteger
  | octalInteger
  | binaryInteger
  | decimalNumber
  | signedNumberStart
  | zeroPrefixed
  | float
  | boolean
  | commentStart
  | comment
  deriving Repr, DecidableEq, Inhabited

/-! Character classes -/

/-- What reading at the end of the text gives. -/
def endChar : Char := '\x00'

/-- What reading a forbidden character gives, after the fault is recorded. -/
def replacementChar : Char := '�'

/-- Blanks within a line: space and tab. -/
def isBlank (c : Char) : Bool := c = ' ' || c = '\t'

/-- Line break characters. -/
def isLineBreak (c : Char) : Bool := c = '\n' || c = '\r'

/-- Control characters a text may not hold: below U+0020 other than tab, line feed and
carriage return, and U+007F. -/
def isControl (c : Char) : Bool :=
  c ≠ '\t' && c ≠ '\n' && c ≠ '\r' && (c.toNat < 0x20 || c.toNat = 0x7f)

/-- Decimal digits. -/
def isDecimal (c : Char) : Bool := '0' ≤ c && c ≤ '9'

/-- Binary digits. -/
def isBinaryDigit (c : Char) : Bool := c = '0' || c = '1'

/-- Octal digits. -/
def isOctalDigit (c : Char) : Bool := '0' ≤ c && c ≤ '7'

/-- Hexadecimal digits, in either case. -/
def isHexDigit (c : Char) : Bool :=
  isDecimal c || ('a' ≤ c && c ≤ 'f') || ('A' ≤ c && c ≤ 'F')

/-- A character as messages show it plainly, in single quotes, or the end of the text. -/
def charOrEnd (c : Char) : String :=
  if c = endChar then "end of file" else "\x27" ++ String.singleton c ++ "\x27"

/-! The cursor -/

/-- The state of the lexer. -/
structure Cursor where
  input : Array Char
  /-- The position of the next character to read. -/
  pos : Nat
  /-- Where the item being read starts. -/
  start : Nat
  line : Nat
  /-- Whether the last read met the end of the text. -/
  atEnd : Bool
  /-- Modes to return to, innermost first. -/
  stack : List Mode
  /-- The items cut so far, in order. -/
  items : Array Item
  /-- Whether a fault has been recorded. -/
  failed : Bool

/-- A step of the lexer. -/
abbrev Lex := StateM Cursor

/-- The characters of the item being read. -/
def Cursor.current (c : Cursor) : String := String.ofList (c.input.extract c.start c.pos).toList

/-- Records a fault on a line, unless one is recorded already; the machine stops. -/
def faultOn (line : Nat) (msg : String) : Lex (Option Mode) := do
  modify fun c => if c.failed then c
    else { c with items := c.items.push ⟨.fault, msg, line⟩, failed := true }
  pure none

/-- Records a fault on the cursor's line, or on the line before when the end was just met. -/
def fail (msg : String) : Lex (Option Mode) := do
  let c ← get
  faultOn (if c.atEnd then c.line - 1 else c.line) msg

/-- Records a fault on the line before the cursor's. -/
def failBefore (msg : String) : Lex (Option Mode) := do
  faultOn ((← get).line - 1) msg

/-- The byte a character that is no valid UTF-8 begins with: a stray byte, or the first
byte of the replacement character, which a valid text cannot hold either. -/
def invalidByte? (ch : Char) : Option UInt8 :=
  match Text.stray? ch with
  | some b => some b
  | none => if ch = Text.replacementChar then some 0xef else none

/-- Reads the next character. -/
def next : Lex Char := do
  let c ← get
  if c.atEnd then return endChar
  match c.input[c.pos]? with
  | none =>
    set { c with atEnd := true }
    return endChar
  | some ch =>
    let line := if ch = '\n' then c.line + 1 else c.line
    if let some b := invalidByte? ch then
      set { c with line := line }
      let _ ← faultOn line ("invalid UTF-8 byte: 0x" ++ String.ofList (Text.hexPad 2 b.toNat))
      return replacementChar
    let loneReturn := ch = '\r' && c.input[c.pos + 1]? ≠ some '\n'
    if isControl ch || loneReturn then
      set { c with line := line }
      let _ ← faultOn line ("TOML files cannot contain control characters: \x270x" ++
        String.ofList (Text.hexPad 2 ch.toNat) ++ "\x27")
      return replacementChar
    set { c with pos := c.pos + 1, line := line }
    return ch

/-- Steps back over the character last read. -/
def backup : Lex Unit := modify fun c =>
  if c.atEnd then { c with atEnd := false }
  else
    let pos := c.pos - 1
    { c with pos := pos, line := if c.input[pos]? = some '\n' then c.line - 1 else c.line }

/-- Reads the next character if it is `ch`. -/
def accept (ch : Char) : Lex Bool := do
  if (← next) = ch then return true
  backup
  return false

/-- The next character, left unread. -/
def peek : Lex Char := do
  let r ← next
  backup
  return r

/-- Drops what was read since the item start. -/
def ignore : Lex Unit := modify fun c => { c with start := c.pos }

/-- Passes over characters that satisfy `p`; what was read is dropped. -/
def skipWhile (p : Char → Bool) : Nat → Lex Unit
  | 0 => ignore
  | fuel + 1 => do
    if p (← next) then skipWhile p fuel
    else
      backup
      ignore

/-- Passes over blanks. -/
def skipBlanks : Lex Unit := do
  let c ← get
  skipWhile isBlank (c.input.size - c.pos + 1)

/-- Cuts the item read so far. -/
def emit (k : ItemKind) : Lex Unit := modify fun c =>
  { c with items := c.items.push ⟨k, c.current, c.line⟩, start := c.pos }

/-- Cuts the item read so far, without blanks around it. -/
def emitTrimmed (k : ItemKind) : Lex Unit := modify fun c =>
  { c with items := c.items.push ⟨k, c.current.trimAscii.toString, c.line⟩, start := c.pos }

/-- Remembers a mode to return to. -/
def push (m : Mode) : Lex Unit := modify fun c => { c with stack := m :: c.stack }

/-- The mode to return to. -/
def pop : Lex (Option Mode) := do
  match (← get).stack with
  | m :: rest =>
    modify fun c => { c with stack := rest }
    pure (some m)
  | [] => fail "BUG in lexer: no states to pop"

/-- Goes on in a mode. -/
def go (m : Mode) : Lex (Option Mode) := pure (some m)

/-- Goes on in a mode after dropping what was read. -/
def skipTo (m : Mode) : Lex (Option Mode) := do
  ignore
  pure (some m)

/-! Modes -/

/-- A fault about an escape a string may not hold. -/
def escapeFault (r : Char) : String := "invalid escape in string \x27\\" ++ String.singleton r ++ "\x27"

/-- Reads `n` hexadecimal digits of a Unicode escape; `false` when one is not. -/
def hexRun : Nat → Lex Bool
  | 0 => pure true
  | n + 1 => do
    if isHexDigit (← next) then hexRun n else pure false

/-- The end of a multi-line string: `q` was just read.  Two more make the end, unless a
further `q` follows, in which case the first `q` belongs to the string; six in a row are a
fault. -/
def closeMultiline (q : Char) (m : Mode) (kind : ItemKind) (six : Cursor → Bool) (sixText : String) :
    Lex (Option Mode) := do
  if ← accept q then
    if ← accept q then
      if (← peek) = q then
        if six (← get) then return ← fail ("unexpected " ++ sixText)
        backup
        backup
        return some m
      backup
      backup
      backup
      emit kind
      let _ ← next
      let _ ← next
      let _ ← next
      ignore
      return ← pop
    backup
  return some m

/-- One step of the lexer in a mode: the next mode, or none when it stops. -/
def step : Mode → Lex (Option Mode)
  | .top => do
    let r ← next
    if isBlank r || isLineBreak r then return ← skipTo .top
    if r = '#' then
      push .top
      return ← go .commentStart
    if r = '[' then return ← go .tableStart
    if r = endChar then
      let c ← get
      if c.pos > c.start then return ← fail "unexpected EOF"
      emit .eof
      return none
    backup
    push .topEnd
    go .keyStart
  | .topEnd => do
    let r ← next
    if r = '#' then
      push .top
      return ← go .commentStart
    if isBlank r then return ← go .topEnd
    if isLineBreak r then return ← skipTo .top
    if r = endChar then
      emit .eof
      return none
    fail ("expected a top-level item to end with a newline, comment, or EOF, but got " ++
      Text.quoteRune r ++ " instead")
  | .tableStart => do
    if (← peek) = '[' then
      let _ ← next
      emit .arrayTableStart
      push .arrayTableEnd
    else
      emit .tableStart
      push .tableEnd
    go .tableNameStart
  | .tableEnd => do
    emit .tableEnd
    go .topEnd
  | .arrayTableEnd => do
    let r ← next
    if r ≠ ']' then
      return ← fail ("expected end of table array name delimiter \x27]\x27, but got " ++
        Text.quoteRune r ++ " instead")
    emit .arrayTableEnd
    go .topEnd
  | .tableNameStart => do
    skipBlanks
    let r ← peek
    if r = ']' || r = endChar then
      return ← fail "unexpected end of table name (table names cannot be empty)"
    if r = '.' then return ← fail "unexpected table separator (table names cannot be empty)"
    if r = '"' || r = '\x27' then
      ignore
      push .tableNameEnd
      return ← go .quotedName
    push .tableNameEnd
    go .bareName
  | .tableNameEnd => do
    skipBlanks
    let r ← next
    if isBlank r then return ← go .tableNameEnd
    if r = '.' then return ← skipTo .tableNameStart
    if r = ']' then return ← pop
    fail ("expected \x27.\x27 or \x27]\x27 to end table name, but got " ++ Text.quoteRune r ++ " instead")
  | .bareName => do
    if isBareKeyChar (← next) then return ← go .bareName
    backup
    emit .text
    pop
  | .quotedName => do
    let r ← next
    if isBlank r then return ← skipTo .value
    if r = '"' then return ← skipTo .basicString
    if r = '\x27' then return ← skipTo .rawString
    if r = endChar then return ← fail "unexpected EOF; expected value"
    fail ("expected value but found " ++ Text.quoteRune r ++ " instead")
  | .keyStart => do
    skipBlanks
    let r ← peek
    if r = '=' || r = endChar then return ← fail "unexpected \x27=\x27: key name appears blank"
    if r = '.' then return ← fail "unexpected \x27.\x27: keys cannot start with a \x27.\x27"
    if r = '"' || r = '\x27' then ignore
    emit .keyStart
    go .keyNameStart
  | .keyNameStart => do
    skipBlanks
    let r ← peek
    if r = '=' || r = endChar then return ← fail "unexpected \x27=\x27"
    if r = '.' then return ← fail "unexpected \x27.\x27"
    if r = '"' || r = '\x27' then
      ignore
      push .keyEnd
      return ← go .quotedName
    push .keyEnd
    go .bareName
  | .keyEnd => do
    skipBlanks
    let r ← next
    if isBlank r then return ← skipTo .keyEnd
    if r = endChar then return ← fail "unexpected EOF; expected key separator \x27=\x27"
    if r = '.' then return ← skipTo .keyNameStart
    if r = '=' then
      emit .keyEnd
      return ← skipTo .value
    fail ("expected \x27.\x27 or \x27=\x27, but got " ++ Text.quoteRune r ++ " instead")
  | .value => do
    let r ← next
    if isBlank r then return ← skipTo .value
    if isDecimal r then
      backup
      return ← go .numberOrDateStart
    if r = '[' then
      ignore
      emit .arrayStart
      return ← go .arrayValue
    if r = '{' then
      ignore
      emit .inlineTableStart
      return ← go .inlineValue
    if r = '"' then
      if ← accept '"' then
        if ← accept '"' then return ← skipTo .multilineString
        backup
      return ← skipTo .basicString
    if r = '\x27' then
      if ← accept '\x27' then
        if ← accept '\x27' then return ← skipTo .multilineRawString
        backup
      return ← skipTo .rawString
    if r = '.' then return ← fail "floats must start with a digit, not \x27.\x27"
    if r = 'i' || r = 'n' then
      let infinity ← do
        if (← accept 'n') then accept 'f' else pure false
      let special ← do
        if infinity then pure true
        else if (← accept 'a') then accept 'n'
        else pure false
      if special then
        emit .float
        return ← pop
    if r = '-' || r = '+' then return ← go .signedNumberStart
    if Text.isLetter r then
      backup
      return ← go .boolean
    if r = endChar then return ← fail "unexpected EOF; expected value"
    fail ("expected value but found " ++ Text.quoteRune r ++ " instead")
  | .arrayValue => do
    let r ← next
    if isBlank r || isLineBreak r then return ← skipTo .arrayValue
    if r = '#' then
      push .arrayValue
      return ← go .commentStart
    if r = ',' then return ← fail "unexpected comma"
    if r = ']' then return ← go .arrayEnd
    backup
    push .arrayValueEnd
    go .value
  | .arrayValueEnd => do
    let r ← next
    if isBlank r || isLineBreak r then return ← skipTo .arrayValueEnd
    if r = '#' then
      push .arrayValueEnd
      return ← go .commentStart
    if r = ',' then return ← skipTo .arrayValue
    if r = ']' then return ← go .arrayEnd
    fail ("expected a comma (\x27,\x27) or array terminator (\x27]\x27), but got " ++ charOrEnd r)
  | .arrayEnd => do
    ignore
    emit .arrayEnd
    pop
  | .inlineValue => do
    let r ← next
    if isBlank r then return ← skipTo .inlineValue
    if isLineBreak r then return ← failBefore "newlines not allowed within inline tables"
    if r = '#' then
      push .inlineValue
      return ← go .commentStart
    if r = ',' then return ← fail "unexpected comma"
    if r = '}' then return ← go .inlineEnd
    backup
    push .inlineValueEnd
    go .keyStart
  | .inlineValueEnd => do
    let r ← next
    if isBlank r then return ← skipTo .inlineValueEnd
    if isLineBreak r then return ← failBefore "newlines not allowed within inline tables"
    if r = '#' then
      push .inlineValueEnd
      return ← go .commentStart
    if r = ',' then
      ignore
      skipBlanks
      if (← peek) = '}' then return ← fail "trailing comma not allowed in inline tables"
      return ← go .inlineValue
    if r = '}' then return ← go .inlineEnd
    fail ("expected a comma or an inline table terminator \x27\x7d\x27, but got " ++ charOrEnd r ++
      " instead")
  | .inlineEnd => do
    ignore
    emit .inlineTableEnd
    pop
  | .basicString => do
    let r ← next
    if r = endChar then return ← fail "unexpected EOF; expected \x27\"\x27"
    if isLineBreak r then return ← failBefore "strings cannot contain newlines"
    if r = '\\' then
      push .basicString
      return ← go .escape
    if r = '"' then
      backup
      emit .basicString
      let _ ← next
      ignore
      return ← pop
    go .basicString
  | .multilineString => do
    let r ← next
    if r = endChar then return ← fail "unexpected EOF; expected \x27\"\"\"\x27"
    if r = '\\' then return ← go .multilineEscape
    if r = '"' then
      return ← closeMultiline '"' .multilineString .multilineString
        (fun c => c.current.endsWith "\"\"\"\"\"" && !c.current.endsWith "\\\"\"\"\"\"")
        "\x27\"\"\"\"\"\"\x27"
    go .multilineString
  | .rawString => do
    let r ← next
    if r = endChar then return ← fail "unexpected EOF; expected \"\x27\""
    if isLineBreak r then return ← failBefore "strings cannot contain newlines"
    if r = '\x27' then
      backup
      emit .rawString
      let _ ← next
      ignore
      return ← pop
    go .rawString
  | .multilineRawString => do
    let r ← next
    if r = endChar then return ← fail "unexpected EOF; expected \"\x27\x27\x27\""
    if r = '\x27' then
      return ← closeMultiline '\x27' .multilineRawString .rawMultilineString
        (fun c => c.current.endsWith "\x27\x27\x27\x27\x27") "\"\x27\x27\x27\x27\x27\x27\""
    go .multilineRawString
  | .multilineEscape => do
    if isLineBreak (← next) then return ← go .multilineString
    backup
    push .multilineString
    go .escape
  | .escape => do
    let r ← next
    if r = 'b' || r = 't' || r = 'n' || r = 'f' || r = 'r' || r = '"' || r = ' ' || r = '\t' ||
        r = '\\' then
      return ← pop
    if r = 'u' then return ← go .shortUnicode
    if r = 'U' then return ← go .longUnicode
    fail (escapeFault r)
  | .shortUnicode => do
    if ← hexRun 4 then return ← pop
    fail ("expected four hexadecimal digits after \x27\\u\x27, but got " ++ Text.quote (← get).current ++
      " instead")
  | .longUnicode => do
    if ← hexRun 8 then return ← pop
    fail ("expected eight hexadecimal digits after \x27\\U\x27, but got " ++ Text.quote (← get).current ++
      " instead")
  | .numberOrDateStart => do
    let r ← next
    if r = '0' then return ← go .zeroPrefixed
    if !isDecimal r then return ← fail ("expected a digit but got " ++ Text.quoteRune r)
    go .numberOrDate
  | .numberOrDate => do
    let r ← next
    if isDecimal r then return ← go .numberOrDate
    if r = '-' || r = ':' then return ← go .dateTime
    if r = '_' then return ← go .decimalNumber
    if r = '.' || r = 'e' || r = 'E' then return ← go .float
    backup
    emit .integer
    pop
  | .dateTime => do
    let r ← next
    if isDecimal r || r = '-' || r = ':' || r = 'T' || r = 't' || r = ' ' || r = '.' || r = 'Z' ||
        r = 'z' || r = '+' then
      return ← go .dateTime
    backup
    emitTrimmed .dateTime
    pop
  | .zeroPrefixed => do
    let r ← next
    if isDecimal r then return ← go .numberOrDate
    if r = '_' then return ← go .decimalNumber
    if r = '.' || r = 'e' || r = 'E' then return ← go .float
    let radix (digit : Char → Bool) (what : String) (m : Mode) : Lex (Option Mode) := do
      let p ← peek
      if !digit p then
        let _ ← fail ("not " ++ what ++ " number: \x27" ++ (← get).current ++ String.singleton p ++ "\x27")
      go m
    if r = 'b' then return ← radix isBinaryDigit "a binary" .binaryInteger
    if r = 'o' then return ← radix isOctalDigit "an octal" .octalInteger
    if r = 'x' then return ← radix isHexDigit "a hexidecimal" .hexInteger
    backup
    emit .integer
    pop
  | .binaryInteger => do
    let r ← next
    if isBinaryDigit r || r = '_' then return ← go .binaryInteger
    backup
    emit .integer
    pop
  | .octalInteger => do
    let r ← next
    if isOctalDigit r || r = '_' then return ← go .octalInteger
    backup
    emit .integer
    pop
  | .hexInteger => do
    let r ← next
    if isHexDigit r || r = '_' then return ← go .hexInteger
    backup
    emit .integer
    pop
  | .decimalNumber => do
    let r ← next
    if isDecimal r then return ← go .decimalNumber
    if r = '.' || r = 'e' || r = 'E' then return ← go .float
    if r = '_' then return ← go .decimalNumber
    backup
    emit .integer
    pop
  | .signedNumberStart => do
    let r ← next
    if r = 'i' || r = 'n' then
      let (a, b) := if r = 'i' then ('n', 'f') else ('a', 'n')
      let ok ← do if (← accept a) then accept b else pure false
      if !ok then return ← fail ("invalid float: \x27" ++ (← get).current ++ "\x27")
      emit .float
      return ← pop
    if r = '0' then
      let p ← peek
      if p = 'b' || p = 'o' || p = 'x' then
        return ← fail ("cannot use sign with non-decimal numbers: \x27" ++ (← get).current ++
          String.singleton p ++ "\x27")
    if r = '.' then return ← fail "floats must start with a digit, not \x27.\x27"
    if isDecimal r then return ← go .decimalNumber
    fail ("expected a digit but got " ++ Text.quoteRune r)
  | .float => do
    let r ← next
    if isDecimal r || r = '_' || r = '.' || r = '-' || r = '+' || r = 'e' || r = 'E' then
      return ← go .float
    backup
    emit .float
    pop
  | .boolean => do
    let word ← letters (((← get).input.size - (← get).pos) + 1) []
    backup
    if word = "true" || word = "false" then
      emit .boolean
      return ← pop
    fail ("expected value but found " ++ Text.quote word ++ " instead")
  | .commentStart => do
    ignore
    emit .commentStart
    go .comment
  | .comment => do
    let r ← next
    if isLineBreak r || r = endChar then
      backup
      emit .text
      return ← pop
    go .comment
where
  /-- Reads letters; the character that ends the run is read too. -/
  letters : Nat → List Char → Lex String
    | 0, acc => pure (String.ofList acc.reverse)
    | fuel + 1, acc => do
      let r ← next
      if Text.isLetter r then letters fuel (r :: acc) else pure (String.ofList acc.reverse)

/-- Runs the lexer from a mode until it stops, a fault is recorded, or the fuel runs out. -/
def runFrom : Nat → Mode → Lex Unit
  | 0, _ => do let _ ← fail "unexpected EOF"
  | fuel + 1, m => do
    match ← step m with
    | none => pure ()
    | some m' => if (← get).failed then pure () else runFrom fuel m'

/-- The items of a text, in order, ending with an end item or a fault. -/
def lexItems (text : List Char) : List Item :=
  let start : Cursor := ⟨text.toArray, 0, 0, 1, false, [], #[], false⟩
  ((runFrom (16 * (text.length + 2)) .top).run start).2.items.toList

end NativeExports.Toml

import NativeExports.Signature
import NativeExports.Fault
import NativeExports.Text.Quote
import NativeExports.Text.Case
import NativeExports.Text.Split
/-!
Reading the assembler's notation for types, as module descriptions write parameter and
return types.

    type      := blanks ["valuetype " | "class "] ("[" name "]")? core suffix*
    core      := "native " word | name ("<" type ("," type)* ">")?
    suffix    := "[" ","* "]" | "*" | "&"

A name runs up to a blank or one of `< > [ ] , * &`.  A name that is a primitive's keyword
is that primitive unless a kind or a scope was written.  Otherwise the name is split at
slashes into the enclosing types and the type itself, and the first part at its last dot
into namespace and name.  A scope in brackets is looked up, lowered, among the module and its
references.  Offsets in messages count bytes of the text's UTF-8 form.
-/

namespace NativeExports

open Text

/-- What went wrong while reading a type's notation. -/
inductive NotationIssue where
  | unterminatedScope
  | unknownScope (module : String)
  | unknownNative (word : String)
  | missingName
  | emptySegment (full : String)
  | expectedArgumentEnd
  | arrayBounds
  | unexpected (rest : String)
  /-- The reader ran past its step budget, which a finite text never makes it do. -/
  | exhausted
  deriving Repr, DecidableEq

/-- The wording of an issue. -/
def NotationIssue.text : NotationIssue → String
  | .unterminatedScope => "unterminated scope"
  | .unknownScope m => "scope " ++ quote m ++ " is neither the module nor one of its references"
  | .unknownNative w => "unknown native type " ++ quote w
  | .missingName => "missing type name"
  | .emptySegment full => "empty name segment in " ++ quote full
  | .expectedArgumentEnd => "expected ',' or '>' in generic arguments"
  | .arrayBounds => "array bounds are not supported"
  | .unexpected rest => "unexpected " ++ quote rest
  | .exhausted => "type notation nested too deeply"

/-- A failed read: the whole text, the byte offset where reading stopped, and why. -/
structure NotationError where
  source : String
  offset : Nat
  issue : NotationIssue
  deriving Repr, DecidableEq

/-- The fault of a failed read, a malformed-attribute finding. -/
def NotationError.toFault (e : NotationError) : Fault :=
  .error Code.badAttribute ("type " ++ quote e.source ++ " at offset " ++ toString e.offset ++
    ": " ++ e.issue.text)

/-- The text still to read and its byte offset in the whole text. -/
structure Cursor where
  rest : List Char
  offset : Nat
  deriving Repr, DecidableEq

namespace Cursor

/-- The next character, if any. -/
def peek (c : Cursor) : Option Char := c.rest.head?

/-- The cursor one character further. -/
def advance (c : Cursor) : Cursor :=
  match c.rest with
  | [] => c
  | x :: r => ⟨r, c.offset + x.utf8Size⟩

/-- Skips spaces and tabs. -/
def skipBlanksFrom (offset : Nat) : List Char → Cursor
  | ' ' :: r => skipBlanksFrom (offset + 1) r
  | '\t' :: r => skipBlanksFrom (offset + 1) r
  | r => ⟨r, offset⟩

/-- The cursor past any spaces and tabs. -/
def skipBlanks (c : Cursor) : Cursor := skipBlanksFrom c.offset c.rest

/-- Characters that end a name. -/
def isNameChar (x : Char) : Bool :=
  !(x = '\x00' || x = ' ' || x = '\t' || x = '<' || x = '>' || x = '[' || x = ']' || x = ',' ||
    x = '*' || x = '&')

/-- Reads a name (possibly empty) and gives the cursor after it. -/
def readName (c : Cursor) : String × Cursor :=
  let taken := c.rest.takeWhile isNameChar
  (String.ofList taken, ⟨c.rest.dropWhile isNameChar, c.offset + (String.ofList taken).utf8ByteSize⟩)

/-- When the text goes on with the keyword and a space or tab, the cursor past the keyword
and the blanks after it. -/
def word? (kw : String) (c : Cursor) : Option Cursor :=
  let k := kw.toList
  if c.rest.take k.length == k &&
      (c.rest.drop k.length).head? matches some ' ' | some '\t' then
    some (skipBlanksFrom (c.offset + kw.utf8ByteSize) (c.rest.drop k.length))
  else none

end Cursor

/-- What a read needs to know: the whole text, for messages, and the scopes by lowered
module name. -/
structure NotationContext where
  source : String
  scopes : List (String × Int32)

/-- The error at a cursor. -/
def NotationContext.fail (cx : NotationContext) (c : Cursor) (issue : NotationIssue) :
    NotationError := ⟨cx.source, c.offset, issue⟩

/-- Reads array, pointer and by-reference suffixes; the budget bounds the loop. -/
def readSuffixes (cx : NotationContext) : Nat → TypeSig → Cursor →
    Except NotationError (TypeSig × Cursor)
  | 0, _, c => .error (cx.fail c .exhausted)
  | fuel + 1, sig, c0 =>
    let c := c0.skipBlanks
    match c.peek with
    | some '[' =>
      let commas := (c.advance.rest.takeWhile (· = ',')).length
      let c1 : Cursor := ⟨c.advance.rest.drop commas, c.advance.offset + commas⟩
      if c1.peek = some ']' then readSuffixes cx fuel (TypeSig.arrayOf sig (commas + 1)) c1.advance
      else .error (cx.fail c1 .arrayBounds)
    | some '*' => readSuffixes cx fuel (TypeSig.pointerTo sig) c.advance
    | some '&' => readSuffixes cx fuel (TypeSig.byRefTo sig) c.advance
    | _ => .ok (sig, c)

/-- Splits a written name into namespace, enclosing types and name; `none` when a part is
empty. -/
def splitTypeName (full : String) : Option (String × List String × String) :=
  match Text.splitOnChar '/' full with
  | [] => none
  | first :: more =>
    let cs := first.toList
    let tailLen := (cs.reverse.takeWhile (· ≠ '.')).length
    let (ns, own) := if tailLen < cs.length then
        (String.ofList (cs.take (cs.length - tailLen - 1)), String.ofList (cs.drop (cs.length - tailLen)))
      else ("", first)
    let chain := own :: more
    if chain.any (· = "") then none
    else some (ns, chain.dropLast, chain.getLast?.getD "")

mutual

/-- Reads one type at the cursor, with a budget of recursive steps. -/
def readType (cx : NotationContext) : Nat → Cursor → Except NotationError (TypeSig × Cursor)
  | 0, c => .error (cx.fail c .exhausted)
  | fuel + 1, c0 =>
    let c1 := c0.skipBlanks
    let (kindGiven, valueType, c2) : Bool × Bool × Cursor :=
      match c1.word? "valuetype" with
      | some c => (true, true, c)
      | none => match c1.word? "class" with
        | some c => (true, false, c)
        | none => (false, false, c1)
    if c2.peek = some '[' then
      let (module, c3) := c2.advance.readName
      if c3.peek ≠ some ']' then .error (cx.fail c3 .unterminatedScope)
      else
        let c4 := c3.advance
        match cx.scopes.lookup (lower module) with
        | none => .error (cx.fail c4 (.unknownScope module))
        | some idx => readCore cx fuel idx true kindGiven valueType c4
    else if !kindGiven then
      match c2.word? "native" with
      | some c3 =>
        let (word, c4) := c3.readName
        match Primitive.ofKeyword? ("native " ++ word) with
        | none => .error (cx.fail c4 (.unknownNative word))
        | some p => readSuffixes cx (c4.rest.length + 1) (TypeSig.prim p) c4
      | none => readCore cx fuel 0 false kindGiven valueType c2
    else readCore cx fuel 0 false kindGiven valueType c2

/-- Reads a name and what follows it: a primitive, or a named type with its arguments. -/
def readCore (cx : NotationContext) : Nat → Int32 → Bool → Bool → Bool → Cursor →
    Except NotationError (TypeSig × Cursor)
  | 0, _, _, _, _, c => .error (cx.fail c .exhausted)
  | fuel + 1, scope, explicitScope, kindGiven, valueType, c =>
    let (full, c1) := c.readName
    if full = "" then .error (cx.fail c1 .missingName)
    else match Primitive.ofKeyword? full with
      | some p =>
        if !explicitScope && !kindGiven then readSuffixes cx (c1.rest.length + 1) (TypeSig.prim p) c1
        else readNamed cx fuel scope valueType full c1
      | none => readNamed cx fuel scope valueType full c1

/-- Builds a named type from its written name and reads its generic arguments, if any. -/
def readNamed (cx : NotationContext) : Nat → Int32 → Bool → String → Cursor →
    Except NotationError (TypeSig × Cursor)
  | 0, _, _, _, c => .error (cx.fail c .exhausted)
  | fuel + 1, scope, valueType, full, c =>
    match splitTypeName full with
    | none => .error (cx.fail c (.emptySegment full))
    | some (ns, enclosing, name) =>
      let sig := { TypeSig.named scope ns name enclosing with valueType := valueType }
      if c.peek = some '<' then
        match readArguments cx fuel [] c.advance with
        | .error e => .error e
        | .ok (args, c') => readSuffixes cx (c'.rest.length + 1) { sig with args := args } c'
      else readSuffixes cx (c.rest.length + 1) sig c

/-- Reads generic arguments up to the closing angle bracket. -/
def readArguments (cx : NotationContext) : Nat → List (Option TypeSig) → Cursor →
    Except NotationError (List (Option TypeSig) × Cursor)
  | 0, _, c => .error (cx.fail c .exhausted)
  | fuel + 1, acc, c =>
    match readType cx fuel c with
    | .error e => .error e
    | .ok (arg, c1) =>
      let c2 := c1.skipBlanks
      match c2.peek with
      | some ',' => readArguments cx fuel (acc ++ [some arg]) c2.advance
      | some '>' => .ok (acc ++ [some arg], c2.advance)
      | _ => .error (cx.fail c2 .expectedArgumentEnd)

end

/-- Reads a whole text as a type; only blanks may follow it.  `scopes` maps lowered module
names to scope numbers. -/
def TypeSig.parse (src : String) (scopes : List (String × Int32)) : Except NotationError TypeSig :=
  let cx : NotationContext := ⟨src, scopes⟩
  match readType cx (4 * src.length + 4) ⟨src.toList, 0⟩ with
  | .error e => .error e
  | .ok (sig, c) =>
    let c' := c.skipBlanks
    if c'.rest.isEmpty then .ok sig else .error (cx.fail c' (.unexpected (String.ofList c'.rest)))

end NativeExports

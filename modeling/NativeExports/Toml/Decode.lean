import NativeExports.Toml.Read
import NativeExports.Text.Case
/-!
Reading typed records out of TOML documents.

A record type lists its fields by the names documents use.  Reading a table into a record
goes through the table's keys in order: a key names the field of that exact name, or else the
first field whose name matches it up to case; a key that names no field is passed over.  Each
key that names a field counts as read, and so does each key of a table read as a free map;
the keys of a document that no field read are its unread keys, which callers refuse.

A value that does not fit its field is refused with a message naming the key being read and
the line where it was defined.  Two values are let through without complaint: a field that
holds a map ignores a value that is not a table, and a field of a record type may be left
unset.
-/

namespace NativeExports.Toml

/-- What a reading has done so far: the keys read, as shown, and the key being read. -/
structure DecodeState where
  decoded : List String
  context : KeyPath

/-- A reader of typed values out of a document. -/
abbrev Decoder := StateT DecodeState (ReaderT Document (Except String))

/-- Fails with a message naming the key being read and its line. -/
def refuse {α : Type} (msg : String) : Decoder α := do
  let ctx := (← get).context
  let doc ← read
  if ctx.isEmpty then throw ("toml: " ++ msg)
  else
    let line := doc.lineOf ctx
    let key := Text.quote (showKey ctx)
    if line > 0 then throw ("toml: line " ++ toString line ++ " (last key " ++ key ++ "): " ++ msg)
    else throw ("toml: (last key " ++ key ++ "): " ++ msg)

/-- Refuses a value that does not fit a field of the named kind. -/
def mismatch {α : Type} (v : Value) (kind : String) : Decoder α :=
  refuse ("incompatible types: TOML value has type " ++ v.typeName ++ "; destination has type " ++ kind)

/-- Counts a key below the current one as read. -/
def markRead (k : String) : Decoder Unit :=
  modify fun s => { s with decoded := s.decoded ++ [showKey (s.context ++ [k])] }

/-- Reads with a key below the current one as the key being read. -/
def under {α : Type} (k : String) (d : Decoder α) : Decoder α := do
  modify fun s => { s with context := s.context ++ [k] }
  let r ← d
  modify fun s => { s with context := s.context.dropLast }
  pure r

/-- A text. -/
def asText : Value → Decoder String
  | .text s => pure s
  | v => mismatch v "string"

/-- A boolean. -/
def asBool : Value → Decoder Bool
  | .boolean b => pure b
  | v => mismatch v "boolean"

/-- A 64-bit integer. -/
def asInt : Value → Decoder Int
  | .integer n => pure n
  | v => mismatch v "integer"

/-- A list, each item read by `item`. -/
def asList {α : Type} (item : Value → Decoder α) : Value → Decoder (List α)
  | .array items => items.mapM item
  | .tables items => items.mapM fun es => item (.table es)
  | v => mismatch v "slice"

/-- A map from keys to free values; every key counts as read.  A value that is no table
leaves the map unset. -/
def asFreeMap : Value → Decoder (Option (List (String × Value)))
  | .table entries => do
    for (k, _) in entries do markRead k
    pure (some entries)
  | _ => pure none

/-- A map from keys to texts.  A value that is no table leaves the map unset. -/
def asTextMap : Value → Decoder (Option (List (String × String)))
  | .table entries => do
    let out ← entries.mapM fun (k, v) => do
      markRead k
      pure (k, ← under k (asText v))
    pure (some out)
  | _ => pure none

/-- A field of a record type: its name in documents and how its value updates a record. -/
structure Field (σ : Type) where
  name : String
  update : Value → σ → Decoder σ

/-- The field a key names: the field of that exact name, or else the first whose name
matches up to case. -/
def fieldFor? {σ : Type} (fields : List (Field σ)) (key : String) : Option (Field σ) :=
  match fields.find? (·.name == key) with
  | some f => some f
  | none => fields.find? fun f => Text.equalFold f.name key

/-- Reads a table into a record, starting from `init`; `typeName` names the record type in
messages. -/
def asRecord {σ : Type} (typeName : String) (fields : List (Field σ)) (init : σ) : Value → Decoder σ
  | .table entries =>
    let step (r : σ) (entry : String × Value) : Decoder σ :=
      match fieldFor? fields entry.1 with
      | none => pure r
      | some f => do
        markRead entry.1
        under entry.1 (f.update entry.2 r)
    entries.foldlM step init
  | v => refuse ("type mismatch for " ++ typeName ++ ": expected table but found " ++ v.typeName)

/-- Reads a document into a record and gives the record with the keys the reading left
unread, sorted. -/
def Document.decode {σ : Type} (doc : Document) (typeName : String) (fields : List (Field σ))
    (init : σ) : Except String (σ × List String) :=
  match ((asRecord typeName fields init (.table doc.root)).run ⟨[], []⟩).run doc with
  | .error e => .error e
  | .ok (r, s) =>
    let unread := (doc.keys.map showKey).filter fun k => !s.decoded.contains k
    .ok (r, unread.mergeSort fun a b => decide (a ≤ b))

end NativeExports.Toml

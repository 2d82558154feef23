import NativeExports.Fault
import NativeExports.Text.Decimal
import NativeExports.Text.Blank
import NativeExports.Text.Case
import NativeExports.Text.Hex
/-!
Module identities.  A module is named by its simple name, a four-part version, the token
of its publisher's key (possibly empty) and a culture (possibly empty).  Two identities name
the same module when their keys agree: the key lowers name and culture and writes version and
token out in full, so identities that differ only in the letter case of name or culture
share a key.
-/

namespace NativeExports

open Text

/-- A version of four parts, each below 65536. -/
structure Version4 where
  major : UInt16
  minor : UInt16
  build : UInt16
  revision : UInt16
  deriving Repr, DecidableEq, Inhabited

namespace Version4

/-- The version 0.0.0.0. -/
def zero : Version4 := ⟨0, 0, 0, 0⟩

/-- The parts in order. -/
def parts (v : Version4) : List UInt16 := [v.major, v.minor, v.build, v.revision]

/-- A version from up to four parts; missing parts are zero. -/
def ofParts (ps : List UInt16) : Version4 :=
  ⟨ps.getD 0 0, ps.getD 1 0, ps.getD 2 0, ps.getD 3 0⟩

/-- The parts joined by dots. -/
def render (v : Version4) : String :=
  String.intercalate "." (v.parts.map fun p => toString p.toNat)

/-- Reads the parts after the first `index` ones. -/
def readParts (whole : String) : Nat → List String → Except Fault (List UInt16)
  | _, [] => .ok []
  | index, p :: rest =>
    match readUnsigned 65535 p with
    | .error issue =>
      .error (.context ("version " ++ quote whole ++ ": component " ++ toString index)
        (.context (numberIssueLabel "ParseUint" p) (.reason issue.reason)))
    | .ok n => (readParts whole (index + 1) rest).map fun tail => n.toUInt16 :: tail

/-- Reads a version: blanks around it are ignored, blank text is 0.0.0.0, and up to four
dot-separated decimal parts are read, missing ones being zero. -/
def parse (s : String) : Except Fault Version4 :=
  let t := trimBlank s
  if t = "" then .ok zero
  else
    let pieces := t.splitOn "."
    if pieces.length > 4 then
      .error (.reason ("version " ++ quote t ++ " has more than four components"))
    else (readParts t 0 pieces).map ofParts

end Version4

/-- The identity of a module. -/
structure Identity where
  name : String
  version : Version4
  token : List UInt8
  culture : String
  deriving Repr, DecidableEq, Inhabited

namespace Identity

/-- The identity with every field empty. -/
def blank : Identity := ⟨"", Version4.zero, [], ""⟩

/-- The base library assumed when none is configured: mscorlib 4.0.0.0 with its public key
token. -/
def defaultBase : Identity :=
  ⟨"mscorlib", ⟨4, 0, 0, 0⟩, [0xb7, 0x7a, 0x5c, 0x56, 0x19, 0x34, 0xe0, 0x89], ""⟩

/-- The key under which identities count as the same module. -/
def key (a : Identity) : String :=
  lower a.name ++ "/" ++ a.version.render ++ "/" ++ hexOfBytes a.token ++ "/" ++ lower a.culture

/-- The display name: name, version, culture ("neutral" when empty) and token ("null" when
empty). -/
def fullName (a : Identity) : String :=
  let culture := if a.culture = "" then "neutral" else a.culture
  let token := if a.token.isEmpty then "null" else hexOfBytes a.token
  a.name ++ ", Version=" ++ a.version.render ++ ", Culture=" ++ culture ++
    ", PublicKeyToken=" ++ token

/-- Whether the identity names the base library called `baseName`, up to case. -/
def isBase (a : Identity) (baseName : String) : Bool := equalFold a.name baseName

end Identity

end NativeExports

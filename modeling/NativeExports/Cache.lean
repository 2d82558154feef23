import NativeExports.Image.File
/-!
The module cache: a directory that keeps module images by identity.  An image with identity
`N`, version `V` and token `T` is kept at `gac/N/V_T/N.dll` below the cache directory (`T` is
the token in lower hex, or `null` without one), and the index `gac/index.mp` lists every kept
identity with the relative path of its file, sorted by identity key.

The index is a MessagePack struct `Schema`, `Entries` with every field written (a missing
token as nil), written and read by a MessagePack library; the tool's index is that of the
library it links.  A missing index, or one of another schema, lists nothing.

A cache finds a reference by name and culture without regard to case and by exact version
and token; a reference without culture matches any culture.
-/

namespace NativeExports

open MessagePack

/-- The schema of the cache index. -/
def cacheSchema : UInt16 := 1

/-- A kept module: its identity and its file, relative to the cache directory. -/
structure CacheEntry where
  identity : Identity
  file : String
  deriving Repr, Inhabited

/-- The index of a cache. -/
structure CacheIndex where
  schema : UInt16
  entries : List CacheEntry
  deriving Repr, Inhabited

namespace CacheIndex

/-- The index of a cache that keeps nothing. -/
def empty : CacheIndex := ⟨cacheSchema, []⟩

section Codec

variable (lib : Library)

/-- An identity with every field written. -/
def identityBytes (a : Identity) : List UInt8 :=
  lib.record [("Name", some (lib.text a.name)),
    ("Version", some (lib.array (a.version.parts.map lib.uint16))),
    ("PublicKeyToken", some (if a.token.isEmpty then lib.nil else lib.binary a.token)),
    ("Culture", some (lib.text a.culture))]

/-- An entry with every field written. -/
def entryBytes (e : CacheEntry) : List UInt8 :=
  lib.record [("Identity", some (identityBytes lib e.identity)), ("File", some (lib.text e.file))]

/-- The binary form of an index; an empty entry list is written as nil. -/
def encodeWith (idx : CacheIndex) : List UInt8 :=
  lib.record [("Schema", some (lib.uint16 idx.schema)),
    ("Entries", some (if idx.entries.isEmpty then lib.nil
      else lib.array (idx.entries.map (entryBytes lib))))]

/-- An entry over its previous value. -/
def readEntry (fuel : Nat) : CacheEntry → Reader CacheEntry :=
  lib.recordValue fuel
    [("Identity", fun e => do pure { e with identity := ← Identity.read lib fuel e.identity }),
      ("File", fun e => do pure { e with file := ← lib.textValue })]
    ⟨Identity.blank, ""⟩

/-- An index over its previous value, its entries a list that keeps what shorter lists
left behind. -/
def read (fuel : Nat) : UInt16 × Backed CacheEntry → Reader (UInt16 × Backed CacheEntry) :=
  lib.recordValue fuel
    [("Schema", fun i => do pure ((← lib.unsigned).toUInt16, i.2)),
      ("Entries", fun i => do
        pure (i.1, ← lib.backedValue (readEntry lib fuel) ⟨Identity.blank, ""⟩ i.2))]
    (0, Backed.empty)

/-- Reads an index from its bytes, starting from an empty index of the current schema. -/
def decodeWith (bytes : List UInt8) : Except ReadError CacheIndex :=
  ((read lib (bytes.length + 1) (cacheSchema, Backed.empty)).run bytes).map
    fun ((schema, entries), _) => ⟨schema, entries.items⟩

end Codec

/-- The binary form of an index, as the linked library writes it. -/
def encode (idx : CacheIndex) : List UInt8 := encodeWith v5 idx

/-- Reads an index from its bytes with the linked library. -/
def decode (bytes : List UInt8) : Except ReadError CacheIndex := decodeWith v5 bytes

/-- The index with the entry of an identity's key replaced by one for the identity and a file,
sorted by identity key. -/
def insert (idx : CacheIndex) (a : Identity) (file : String) : CacheIndex :=
  let kept := idx.entries.filter fun e => e.identity.key != a.key
  ⟨idx.schema, (kept ++ [CacheEntry.mk a file]).mergeSort fun e f =>
    decide (e.identity.key ≤ f.identity.key)⟩

end CacheIndex

/-- A cache rooted at a directory. -/
structure ModuleCache where
  dir : String
  deriving Repr, Inhabited

namespace ModuleCache

/-- The path of the index. -/
def indexPath (c : ModuleCache) : String := Path.join [c.dir, "gac", "index.mp"]

/-- The index of the cache: empty when there is none or when it has another schema. -/
def readIndex (c : ModuleCache) (w : Workspace) : Except Fault CacheIndex :=
  let p := c.indexPath
  match w.wayProblem? p, w.find? p with
  | some r, _ =>
    if r == "no such file or directory" then .ok CacheIndex.empty
    else .error (systemFault "open" p r)
  | none, none => .ok CacheIndex.empty
  | none, some .directory =>
    .error (.context ("cache index " ++ p) (systemFault "read" p "is a directory"))
  | none, some (.file bytes) =>
    match CacheIndex.decode bytes with
    | .error e => .error (.context ("cache index " ++ p) (.reason e.text))
    | .ok idx => .ok (if idx.schema != cacheSchema then CacheIndex.empty else idx)

/-- Writes the index of the cache, making its directory. -/
def writeIndex (c : ModuleCache) (w : Workspace) (idx : CacheIndex) : Except Fault Workspace := do
  let p := c.indexPath
  let w ← w.makeDirs (Path.dir p)
  let (w, tmp) ← w.writeTemp (Path.dir p) "index-" "" { idx with schema := cacheSchema }.encode
  w.rename tmp p

/-- Whether characters hold two dots in a row. -/
def hasDoubleDot : List Char → Bool
  | '.' :: '.' :: _ => true
  | _ :: rest => hasDoubleDot rest
  | [] => false

/-- Whether a name can name a directory and a file of the cache. -/
def safeName (name : String) : Bool :=
  !(name == "." || hasDoubleDot name.toList ||
    name.any fun ch => ch == '/' || ch == '\\' || ch == '\x00')

/-- The file of an identity's image below the cache, relative to it. -/
def entryFile (a : Identity) : String :=
  let token := if a.token.isEmpty then "null" else Text.hexOfBytes a.token
  Path.join ["gac", a.name, a.version.render ++ "_" ++ token, a.name ++ ".dll"]

/-- Keeps an image: writes its file, replaces any entry of the same identity key in the
index, and gives the path of the kept file. -/
def put (c : ModuleCache) (w : Workspace) (img : Image) : Except Fault (Workspace × String) := do
  let a := img.identity
  if Text.trimBlank a.name == "" then throw (.reason "image has no identity name")
  if !safeName a.name then
    throw (.reason ("identity name " ++ Text.quote a.name ++ " cannot name a cache entry"))
  let rel := entryFile a
  let w ← w.writeImage (Path.join [c.dir, rel]) img
  let idx ← c.readIndex w
  let w ← c.writeIndex w (idx.insert a rel)
  pure (w, Path.join [c.dir, rel])

/-- Whether a kept identity answers a reference. -/
def answers (ref a : Identity) : Bool :=
  Text.equalFold a.name ref.name && a.version == ref.version && a.token == ref.token &&
    (ref.culture == "" || Text.equalFold a.culture ref.culture)

/-- The path of the first kept module that answers a reference. -/
def lookup (c : ModuleCache) (w : Workspace) (ref : Identity) : Except Fault (Option String) :=
  if c.dir == "" then .ok none
  else do
    let idx ← c.readIndex w
    pure ((idx.entries.find? fun e => answers ref e.identity).map fun e => Path.join [c.dir, e.file])

end ModuleCache

end NativeExports

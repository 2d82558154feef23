import NativeExports.Toml.Decode
import NativeExports.Identity
import NativeExports.Toolchain
import NativeExports.Path
import NativeExports.Export.Candidate
/-!
The settings file of a project.  It may name the base library (`[base]`: name, version,
public key token, culture), where references are looked up (`[resolve]`: registry
directories and a module cache), the marker attribute types (`[export]`: attributes), and
assemblers by runtime line (`[toolchain]`: ilasm).  Relative directories and assembler
paths that contain a slash are taken relative to the directory of the file.

A file is refused when it is no TOML document or its values do not fit, when it has keys
that name no setting, when `[base]` is given without a name, when `[export].attributes` is
given empty, when the base version or token cannot be read, or when an assembler line is no
runtime version.  Without a file every setting has its default.
-/

namespace NativeExports

/-- The base library as the settings name it. -/
structure BaseSetting where
  name : String
  version : String
  token : String
  culture : String
  deriving Repr, Inhabited

/-- The settings of a project. -/
structure Settings where
  /-- The settings file, empty when there is none. -/
  file : String
  base : BaseSetting
  registry : List String
  cache : String
  attributes : List String
  /-- Assembler paths by runtime line, as the file gives them. -/
  assemblers : List (String × String)
  deriving Repr, Inhabited

namespace Settings

/-- The settings when there is no file. -/
def defaults : Settings := ⟨"", ⟨"", "", "", ""⟩, [], "", [defaultMarker], []⟩

/-- The fields of `[base]`. -/
def baseFields : List (Toml.Field BaseSetting) :=
  [⟨"name", fun v b => do pure { b with name := ← Toml.asText v }⟩,
    ⟨"version", fun v b => do pure { b with version := ← Toml.asText v }⟩,
    ⟨"public_key_token", fun v b => do pure { b with token := ← Toml.asText v }⟩,
    ⟨"culture", fun v b => do pure { b with culture := ← Toml.asText v }⟩]

/-- The fields of the file. -/
def fields : List (Toml.Field Settings) :=
  [⟨"base", fun v s => do pure { s with base := ← Toml.asRecord "config.BaseConfig" baseFields s.base v }⟩,
    ⟨"resolve", fun v s => Toml.asRecord "config.ResolveConfig"
      [⟨"registry", fun v s => do pure { s with registry := ← Toml.asList Toml.asText v }⟩,
        ⟨"cache", fun v s => do pure { s with cache := ← Toml.asText v }⟩] s v⟩,
    ⟨"export", fun v s => Toml.asRecord "config.ExportConfig"
      [⟨"attributes", fun v s => do pure { s with attributes := ← Toml.asList Toml.asText v }⟩] s v⟩,
    ⟨"toolchain", fun v s => Toml.asRecord "config.ToolchainConfig"
      [⟨"ilasm", fun v s => do
        match ← Toml.asTextMap v with
        | some m => pure { s with assemblers := m }
        | none => pure s⟩] s v⟩]

/-- The directory relative paths of the settings are taken from. -/
def root (s : Settings) : String := if s.file = "" then "" else Path.dir (Path.clean s.file)

/-- A path of the settings, taken relative to the directory of the file. -/
def resolve (s : Settings) (p : String) : String :=
  if Path.isAbs p || s.root = "" then p else Path.join [s.root, p]

/-- The base library the settings name, or the default one. -/
def baseIdentity (s : Settings) : Except Fault Identity := do
  if s.base.name = "" then return Identity.defaultBase
  let file := Path.clean s.file
  let version ← if s.base.version = "" then pure Version4.zero
    else match Version4.parse s.base.version with
      | .ok v => pure v
      | .error e => throw (.wrap Code.badConfig e (file ++ ": [base].version"))
  let token ← if s.base.token = "" then pure []
    else match Text.bytesOfHex s.base.token with
      | .ok t => pure t
      | .error e => throw (.wrap Code.badConfig (.reason e.text) (file ++ ": [base].public_key_token"))
  pure ⟨s.base.name, version, token, s.base.culture⟩

/-- The registry directories. -/
def registryDirs (s : Settings) : List String := s.registry.map s.resolve

/-- The module cache directory, empty when none is set. -/
def cacheDir (s : Settings) : String := if s.cache = "" then "" else s.resolve s.cache

/-- The assembler paths by runtime line; a path with a slash is taken relative to the file. -/
def assemblerLines (s : Settings) : List (String × String) :=
  s.assemblers.map fun (line, p) => (line, if p.contains '/' then s.resolve p else p)

/-- Reads the settings file at `file` from its contents, or from the fault of reading it. -/
def ofFile (file : String) (contents : Except Fault String) : Except Fault Settings := do
  let failed (cause : Fault) : Fault := .wrap Code.badConfig cause (file ++ ": failed to parse TOML")
  let text ← contents.mapError failed
  let doc ← (Toml.Document.parse text).mapError fun e => failed (.reason e.text)
  let (s, unread) ← (doc.decode "config.Config" fields defaults).mapError fun e => failed (.reason e)
  if !unread.isEmpty then
    throw (.error Code.badConfig (file ++ ": unknown keys: " ++ String.intercalate ", " unread))
  if doc.isDefined ["base"] && (!doc.isDefined ["base", "name"] || (Text.trimBlank s.base.name).isEmpty) then
    throw (.error Code.badConfig (file ++ ": [base] requires name"))
  if doc.isDefined ["export", "attributes"] && s.attributes.isEmpty then
    throw (.error Code.badConfig (file ++ ": [export].attributes must not be empty"))
  let s := { s with file := file }
  let _ ← s.baseIdentity
  for (line, _) in sortedLines s.assemblers do
    match RuntimeVersion.parse line with
    | .ok _ => pure ()
    | .error e => throw (.wrap Code.badConfig e (file ++ ": [toolchain].ilasm line " ++ Text.quote line))
  pure s

end Settings

end NativeExports

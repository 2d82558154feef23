import NativeExports.Loader
import NativeExports.Export.Candidate
import NativeExports.Export.Ordinal
import NativeExports.Assembler.Program
/-!
A session: the modules of one run loaded, scanned for exports and given ordinals, ready to
be written as an assembler program.

Preparing a session needs at least one input.  The base library defaults to the standard
one, and findings are collected up to a limit (100 when none is set, none when negative).
Each finding the collection takes is also reported, in the order the scan meets them.
-/

namespace NativeExports

/-- What a session is prepared from. -/
structure SessionRequest where
  inputs : List String
  /-- Reference paths by lower-case module name. -/
  references : List (String × String)
  system : SystemSearch
  /-- The base library; the standard one when its name is empty. -/
  base : Identity
  markers : List String
  /-- The most findings to keep: 0 for the default, negative for no limit. -/
  maxFindings : Int
  deriving Repr, Inhabited

/-- The limit on findings when none is set. -/
def defaultMaxFindings : Int := 100

namespace SessionRequest

/-- The base library of a request: the standard one when the request names none. -/
def baseLibrary (req : SessionRequest) : Identity :=
  if req.base.name == "" then Identity.defaultBase else req.base

/-- The most findings a request keeps: the default when it sets none. -/
def findingLimit (req : SessionRequest) : Int :=
  if req.maxFindings == 0 then defaultMaxFindings else req.maxFindings

/-- Where the references of a request's modules are looked for: its system search, its
reference paths by lower-case name, and its base library. -/
def search (req : SessionRequest) : Search :=
  ⟨req.system, req.references.map fun (n, p) => (Text.lower n, p), req.baseLibrary⟩

end SessionRequest

/-- Everything one run prepares. -/
structure Session where
  modules : List LoadedModule
  requirement : RuntimeVersion
  candidates : List Candidate
  table : OrdinalTable
  aliases : Assembler.AliasTable
  findings : Findings
  /-- The findings reported as they were taken, in order. -/
  reported : List Finding

namespace Session

/-- Offers findings to a collection in order; gives the collection and those it took. -/
def collect (b : Findings) (fs : List Finding) : Findings × List Finding :=
  fs.foldl (fun (b, taken) f =>
    let (b', took) := b.add (some f)
    (b', if took then taken ++ [f] else taken)) (b, [])

/-- Loads the inputs, scans them and allocates ordinals.  Gives the findings reported on the
way, which stand even when a later step fails, and the session or the fault that stopped it. -/
def prepare (w : Workspace) (req : SessionRequest) : List Finding × Except Fault Session :=
  if req.inputs.isEmpty then ([], .error (.error Code.missingInput "no input modules given"))
  else
    match load w req.search req.inputs with
    | .error f => ([], .error f)
    | .ok loaded =>
      let (found, scanned) := scanModules loaded.modules req.markers
      let (findings, reported) := collect (Findings.empty req.findingLimit) found
      (reported, do
        let candidates ← scanned
        let table ← OrdinalTable.allocate candidates
        pure ⟨loaded.modules, loaded.requirement, candidates, table,
          Assembler.AliasTable.empty req.baseLibrary, findings, reported⟩)

/-- The assembler program for an output path, and the alias table it leaves. -/
def emit (s : Session) (output : String) : Except Fault String × Assembler.AliasTable :=
  (Assembler.program s.table output).run.run s.aliases

end Session

end NativeExports

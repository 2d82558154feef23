import NativeExports.Module
import NativeExports.Findings
/-!
Export candidates: the methods of loaded modules that carry an export marker.

The walk visits, module by module, the module-level functions and then each type depth
first: a type's methods, then its nested types.  A generic type definition and everything
nested in it are not candidates; a marked method inside one is reported and ignored, and an
empty method entry inside one crashes the scan, which reads its attributes all the same.  A
marked method outside them is chosen when it is static, not generic, has no variable
argument list, is public, and every type that encloses it is public; otherwise the first
failing condition is reported and it is ignored.  The marker is the first attribute whose
type is one of the marker types.  Its named argument `Name` gives the export name (by
default the declaring types' dotted name and the method's name), and `Ordinal` the requested
ordinal (0: none).  Two candidates may not share an export name.
-/

namespace NativeExports

/-- The attribute type that marks a method for export when no marker is configured. -/
def defaultMarker : String := "RGiesecke.DllExport.DllExportAttribute"

/-- A marked method chosen for export. -/
structure Candidate where
  module : LoadedModule
  /-- The types enclosing the method, outermost first; empty for a module-level function. -/
  owners : List TypeDef
  method : Method
  /-- The export name. -/
  name : String
  /-- The requested ordinal, 0 when none is requested. -/
  ordinal : UInt16
  deriving Repr, Inhabited

/-- The dotted name of the declaring types: the outermost type's namespace (when not empty)
and the types' names. -/
def declaringName (owners : List TypeDef) : String :=
  match owners with
  | [] => ""
  | first :: _ =>
    String.intercalate "." ((if first.ns = "" then [] else [first.ns]) ++ owners.map (·.name))

/-- How messages name a method: declaring types (or `<module>`), method and module. -/
def entityName (moduleName : String) (owners : List TypeDef) (m : Method) : String :=
  let owner := declaringName owners
  (if owner = "" then "<module>" else owner) ++ "::" ++ m.name ++ " (" ++ moduleName ++ ")"

/-- How messages name a candidate. -/
def Candidate.entity (c : Candidate) : String := entityName c.module.name c.owners c.method

/-- One step of the walk over the modules. -/
inductive Visit where
  /-- A method outside generic type definitions, with its enclosing types. -/
  | method (mod : LoadedModule) (owners : List TypeDef) (m : Method)
  /-- A method inside a generic type definition, with its enclosing types. -/
  | inGeneric (mod : LoadedModule) (owners : List TypeDef) (m : Method)
  /-- An empty method entry inside a generic type definition. -/
  | emptyInGeneric
  deriving Inhabited

/-- The visits of a list of methods, skipping empty entries. -/
def methodVisits (mod : LoadedModule) (owners : List TypeDef) (ms : List (Option Method)) :
    List Visit :=
  ms.filterMap fun m => m.map (Visit.method mod owners)

/-- The visits of the methods of a type inside a generic definition; unlike the walk outside
generic definitions, this one does not skip empty entries. -/
def genericMethodVisits (mod : LoadedModule) (owners : List TypeDef) (ms : List (Option Method)) :
    List Visit :=
  ms.map fun m => (m.map (Visit.inGeneric mod owners)).getD .emptyInGeneric

mutual

/-- The visits of a type and everything nested in it, outside generic definitions. -/
def typeVisits (mod : LoadedModule) (owners : List TypeDef) : Option TypeDef → List Visit
  | none => []
  | some t@⟨_, _, _, _, generics, nested, methods⟩ =>
    if generics.isEmpty then
      methodVisits mod (owners ++ [t]) methods ++ nestedVisits mod (owners ++ [t]) nested
    else genericVisits mod (owners ++ [t]) (some t)

/-- The visits of a list of nested types. -/
def nestedVisits (mod : LoadedModule) (owners : List TypeDef) : List (Option TypeDef) → List Visit
  | [] => []
  | t :: rest => typeVisits mod owners t ++ nestedVisits mod owners rest

/-- The visits of a type inside a generic definition and everything nested in it. -/
def genericVisits (mod : LoadedModule) (chain : List TypeDef) : Option TypeDef → List Visit
  | none => []
  | some ⟨_, _, _, _, _, nested, methods⟩ =>
    genericMethodVisits mod chain methods ++ genericNestedVisits mod chain nested

/-- The visits of the nested types of a type inside a generic definition. -/
def genericNestedVisits (mod : LoadedModule) (chain : List TypeDef) :
    List (Option TypeDef) → List Visit
  | [] => []
  | none :: rest => genericNestedVisits mod chain rest
  | some t :: rest => genericVisits mod (chain ++ [t]) (some t) ++ genericNestedVisits mod chain rest

end

/-- The walk over one module: its functions, then its types. -/
def moduleVisits (mod : LoadedModule) : List Visit :=
  methodVisits mod [] mod.image.functions ++ nestedVisits mod [] mod.image.types

/-- The walk over all modules, in order. -/
def walkVisits (mods : List LoadedModule) : List Visit := mods.flatMap moduleVisits

/-- The marker types in force: the configured ones, or the default when none is. -/
def markerSet (markers : List String) : List String :=
  if markers.isEmpty then [defaultMarker] else markers

/-- The marker of a method: its first attribute whose type is a marker type. -/
def markerOf (markers : List String) (m : Method) : Option Attribute :=
  m.attributes.find? fun a => markers.contains a.typeName

/-- Why a method cannot be exported, the first failing condition, or none. -/
def ineligibility (owners : List TypeDef) (m : Method) : Option String :=
  if !m.isStatic then some "it is an instance method"
  else if m.isGeneric then some "it is generic"
  else if m.callConv = callVarArg then some "it takes a variable argument list"
  else if m.visibility ≠ visibilityPublic then some "it is not visible outside its module"
  else match owners.find? (·.visibility ≠ visibilityPublic) with
    | some t => some ("its declaring type " ++ t.name ++ " is not visible outside its module")
    | none => none

/-- The export name a marker gives a method: its `Name` argument when not empty, else the
declaring types' dotted name and the method's name, or the bare method name. -/
def markerName (mod : LoadedModule) (owners : List TypeDef) (m : Method) (marker : Attribute) :
    Except Fault String := do
  let given ← match marker.lookup "Name" with
    | none => pure ""
    | some v => match v.asString with
      | .ok s => pure s
      | .error e => throw (.wrap Code.badAttribute e (entityName mod.name owners m ++
          ": export marker Name"))
  pure (if given ≠ "" then given
    else if declaringName owners ≠ "" then declaringName owners ++ "." ++ m.name
    else m.name)

/-- The ordinal a marker requests for a method, 0 when it requests none. -/
def markerOrdinal (mod : LoadedModule) (owners : List TypeDef) (m : Method) (marker : Attribute) :
    Except Fault UInt16 :=
  let entity := entityName mod.name owners m
  match marker.lookup "Ordinal" with
  | none => pure 0
  | some v => match v.asInt with
    | .error e => throw (.wrap Code.badAttribute e (entity ++ ": export marker Ordinal"))
    | .ok raw =>
      if raw.toInt < 0 || raw.toInt > 65535 then
        throw (.wrap Code.badAttribute (.reason "out of range")
          (entity ++ ": ordinal " ++ toString raw.toInt ++ " does not fit in 16 bits"))
      else pure raw.toInt.toNat.toUInt16

/-- The export name and requested ordinal a marker gives a method; the name is read first. -/
def readMarker (mod : LoadedModule) (owners : List TypeDef) (m : Method) (marker : Attribute) :
    Except Fault (String × UInt16) := do
  let name ← markerName mod owners m marker
  let ordinal ← markerOrdinal mod owners m marker
  pure (name, ordinal)

/-- What a scan has gathered: the candidates chosen and the findings reported, in order. -/
structure ScanState where
  chosen : List Candidate
  findings : List Finding
  deriving Inhabited

/-- Takes one visit into the scan.  Looking for the marker of an empty entry inside a generic
definition reads through nothing and crashes. -/
def ScanState.visit (markers : List String) (s : ScanState) : Visit → Except Fault ScanState
  | .emptyInGeneric => .error Fault.nilDereference
  | .inGeneric mod owners m =>
    match markerOf markers m with
    | none => .ok s
    | some _ =>
      let t := (owners.getLast?.map (·.name)).getD ""
      .ok { s with findings := s.findings ++ [⟨Code.markInGenericType, .warning,
        entityName mod.name owners m ++ " is marked for export inside generic type " ++ t ++
          "; ignored"⟩] }
  | .method mod owners m =>
    match markerOf markers m, ineligibility owners m with
    | some _, some reason =>
      .ok { s with findings := s.findings ++ [⟨Code.ineligibleMark, .warning,
        entityName mod.name owners m ++ " is marked for export but " ++ reason ++ "; ignored"⟩] }
    | none, _ => .ok s
    | some marker, none => do
      let (name, ordinal) ← readMarker mod owners m marker
      let c : Candidate := ⟨mod, owners, m, name, ordinal⟩
      match s.chosen.find? (·.name == name) with
      | some prev => throw (.error Code.duplicateExportName ("export name " ++ Text.quote name ++
          " is declared by both " ++ prev.entity ++ " and " ++ c.entity))
      | none => pure { s with chosen := s.chosen ++ [c] }

/-- Runs the visits in order; a failure stops the scan and keeps the findings so far. -/
def runVisits (markers : List String) : ScanState → List Visit → ScanState × Option Fault
  | s, [] => (s, none)
  | s, v :: rest =>
    match s.visit markers v with
    | .ok s' => runVisits markers s' rest
    | .error f => (s, some f)

/-- Scans modules for export candidates with the configured marker types: the findings
reported in walk order, and the candidates in walk order or the fault that stopped the scan. -/
def scanModules (mods : List LoadedModule) (markers : List String) :
    List Finding × Except Fault (List Candidate) :=
  let (s, failure) := runVisits (markerSet markers) ⟨[], []⟩ (walkVisits mods)
  match failure with
  | some f => (s.findings, .error f)
  | none => (s.findings, .ok s.chosen)

end NativeExports

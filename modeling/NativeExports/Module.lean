import NativeExports.Image
import NativeExports.Toolchain
import NativeExports.Assembler.TypeText
/-!
Loaded modules.  A loaded module is an image read from a path, with the runtime version it
targets and, for each reference of the image in order, the module the reference was bound
to: its identity, the path it was read from, and whether it is the base library.  Scope 0 of
a signature names the module itself, scope n its n-th bound reference.
-/

namespace NativeExports

/-- A reference of a module bound to a module found for it. -/
structure BoundReference where
  identity : Identity
  path : String
  isBase : Bool
  deriving Repr, Inhabited

/-- A module read for a run. -/
structure LoadedModule where
  path : String
  image : Image
  runtime : RuntimeVersion
  refs : List BoundReference
  /-- The identity of the base library in the run. -/
  base : Identity
  deriving Repr, Inhabited

namespace LoadedModule

/-- The module's own name. -/
def name (m : LoadedModule) : String := m.image.identity.name

/-- What a scope number names in the module: itself for 0, its n-th reference for n, and a
fault for a number out of range. -/
def scope (m : LoadedModule) : Assembler.Scoper := fun n =>
  if n = 0 then .ok (m.image.identity, m.image.identity.isBase m.base.name)
  else if n < 0 || n.toInt > m.refs.length then
    .error (.error Code.badScope (m.path ++ ": type scope " ++ toString n.toInt ++
      " out of range (module has " ++ toString m.refs.length ++ " references)"))
  else match m.refs[n.toInt.toNat - 1]? with
    | some r => .ok (r.identity, r.isBase)
    | none => .error (.error Code.badScope (m.path ++ ": type scope " ++ toString n.toInt ++
      " out of range (module has " ++ toString m.refs.length ++ " references)"))

end LoadedModule

end NativeExports

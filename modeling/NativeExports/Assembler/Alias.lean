import NativeExports.Identity
/-!
The alias table of a program.  Every module a program refers to other than the base library
gets an alias: the n-th distinct identity, by key, that the program names is `asm` n.  The
base library is always `mscorlib`.  The table is the list of those identities in the order
of their first use; an identity's alias is read off its position, so equal keys always get
one alias.
-/

namespace NativeExports.Assembler

/-- The alias of the base library. -/
def baseAlias : String := "mscorlib"

/-- The aliases of a program: the base library and the other modules in order of first use. -/
structure AliasTable where
  base : Identity
  externs : List Identity
  deriving Repr

namespace AliasTable

/-- A table with no module yet. -/
def empty (base : Identity) : AliasTable := ⟨base, []⟩

/-- The alias of the module at a position of the table. -/
def aliasAt (i : Nat) : String := "asm" ++ toString (i + 1)

/-- The position of the module with the identity's key, if it has one. -/
def position? (t : AliasTable) (id : Identity) : Option Nat :=
  t.externs.findIdx? (·.key == id.key)

/-- The alias of a module, giving one to a module seen for the first time. -/
def resolve (t : AliasTable) (id : Identity) (isBase : Bool) : String × AliasTable :=
  if isBase then (baseAlias, t)
  else match t.position? id with
    | some i => (aliasAt i, t)
    | none => (aliasAt t.externs.length, { t with externs := t.externs ++ [id] })

/-- The aliases given, in order, with their modules. -/
def aliases (t : AliasTable) : List (String × Identity) :=
  t.externs.zipIdx.map fun (id, i) => (aliasAt i, id)

end AliasTable

end NativeExports.Assembler

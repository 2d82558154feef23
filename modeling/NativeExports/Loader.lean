import NativeExports.Module
import NativeExports.Cache
/-!
Loading the input modules of a run and binding their references.

Every input is read first, in order, and known under its identity key.  Then each input's
references are bound in order, and its runtime version read; the run needs the highest.

A reference is bound by the first rule that applies:

* it names the base library (by name, without regard to case): the base itself, with no path;
* a module already known under the reference's key;
* the first search step that finds a path for it, in this order: the system step (the cache,
  then each registry directory with `.dll` and then `.exe`), the explicit map (by lower-case
  name), and the directory of the referencing module (`.dll`, then `.exe`).  The module read
  there is known under both the reference's key and its own, and its references are bound in
  turn (and then forgotten).

Binding recurses through the modules found.  Each level of the recursion makes known the key of
a reference that some image of the workspace holds and that was not known before, so the depth
of the recursion is below the number of such references plus one; that number is the fuel.

The search steps run in any monad with faults, so that a run can be watched: in `Except Fault`
they are the search itself, and in a monad with a log they can also record what they were
asked.
-/

namespace NativeExports

/-- The system step of a search: a cache and registry directories. -/
structure SystemSearch where
  cache : Option ModuleCache
  registry : List String
  deriving Repr, Inhabited

/-- Where references are looked for. -/
structure Search where
  system : SystemSearch
  /-- Paths by lower-case module name. -/
  explicit : List (String × String)
  base : Identity
  deriving Repr, Inhabited

/-- What a load gives: the input modules with their references bound, and the highest
runtime version among them. -/
structure LoadResult where
  modules : List LoadedModule
  requirement : RuntimeVersion
  deriving Repr, Inhabited

/-- Known modules by identity key, the latest binding first. -/
abbrev Bindings := List (String × BoundReference)

/-- The extensions a module file may have, in the order they are tried. -/
def moduleExtensions : List String := [".dll", ".exe"]

/-- The first file named for a reference in a directory. -/
def fileIn (w : Workspace) (dir name : String) : Option String :=
  (moduleExtensions.map fun ext => Path.join [dir, name ++ ext]).find? w.isFile

/-- The system step: the cache, then the registry directories. -/
def SystemSearch.find (s : SystemSearch) (w : Workspace) (ref : Identity) :
    Except Fault (Option String) := do
  let cached ← match s.cache with
    | some c => c.lookup w ref
    | none => pure none
  match cached with
  | some p => pure (some p)
  | none => pure (s.registry.findSome? fun dir => fileIn w dir ref.name)

/-- A search step: the path it finds for a reference made by the module at a path, if any. -/
abbrev Finder (m : Type → Type) := Identity → String → m (Option String)

/-- The search steps in order, each giving a path or nothing for a reference made by a
module at `source`. -/
def Search.steps (s : Search) (w : Workspace) : List (Finder (Except Fault)) :=
  [fun ref _ => s.system.find w ref,
    fun ref _ => .ok ((s.explicit.find? (·.1 == Text.lower ref.name)).map (·.2)),
    fun ref source => .ok (fileIn w (Path.dir source) ref.name)]

/-- The fault of a binding that has run out of fuel.  Binding from the workspace's fuel never
gives it. -/
def chainTooDeep (ref : Identity) (source : String) : Fault :=
  .error Code.unresolvedReference ("reference chain too deep at " ++ ref.name ++
    " referenced by " ++ source)

/-- An input module read from its path. -/
def readInput (w : Workspace) (p : String) : Except Fault (String × Image) := do
  let img ← (w.readImage p).mapError fun f =>
    .wrap Code.unreadableImage f ("cannot load module " ++ p)
  pure (p, img)

section Binding

variable {m : Type → Type} [Monad m] [MonadExcept Fault m]

/-- The path of the first step that finds one; a failing step stops the search. -/
def firstFound (ref : Identity) (source : String) : List (Finder m) → m (Option String)
  | [] => pure none
  | step :: rest => do
    match ← step ref source with
    | some p => pure (some p)
    | none => firstFound ref source rest

/-- Binds a reference made by the module at `source`, and the references of what it finds. -/
def bindReference (finders : List (Finder m)) (w : Workspace) (base : Identity) :
    Nat → Bindings → Identity → String → m (BoundReference × Bindings)
  | 0, _, ref, source => throw (chainTooDeep ref source)
  | fuel + 1, known, ref, source =>
    if ref.isBase base.name then pure (⟨base, "", true⟩, known)
    else match known.lookup ref.key with
    | some r => pure (r, known)
    | none => do
      let found ← tryCatch (firstFound ref source finders) fun f =>
        throw (.wrap Code.unresolvedReference f ("resolving " ++ ref.name ++ " referenced by " ++
          source))
      match found with
      | none => throw (.error Code.unresolvedReference ("cannot resolve module " ++
          Text.quote ref.name ++ " (" ++ ref.fullName ++ ") referenced by " ++ source))
      | some p =>
        let img ← MonadExcept.ofExcept ((w.readImage p).mapError fun f =>
          .wrap Code.unreadableImage f ("reference " ++ ref.name ++ " resolved to unreadable " ++ p))
        let r : BoundReference := ⟨img.identity, p, false⟩
        let known := (img.identity.key, r) :: (ref.key, r) :: known
        let known ← img.references.foldlM (fun k dep => do
          pure (← bindReference finders w base fuel k dep p).2) known
        pure (r, known)

/-- Binds the references of a module in order. -/
def bindAll (finders : List (Finder m)) (w : Workspace) (base : Identity) (fuel : Nat)
    (known : Bindings) (refs : List Identity) (source : String) :
    m (List BoundReference × Bindings) :=
  refs.foldlM (fun (acc, k) ref => do
    let (r, k) ← bindReference finders w base fuel k ref source
    pure (acc ++ [r], k)) ([], known)

/-- The inputs read, each known under its identity key; a later input with the same key
hides an earlier one. -/
def inputBindings (read : List (String × Image)) : Bindings :=
  read.foldl (fun k (p, img) => (img.identity.key, ⟨img.identity, p, false⟩) :: k) []

/-- Binds the references of one input module, after the modules before it, and reads the
runtime version it targets. -/
def loadModule (finders : List (Finder m)) (w : Workspace) (base : Identity) (fuel : Nat) :
    List LoadedModule × Bindings × RuntimeVersion → String × Image →
      m (List LoadedModule × Bindings × RuntimeVersion)
  | (mods, known, req), (p, img) => do
    let (refs, known) ← bindAll finders w base fuel known img.references p
    let rt ← MonadExcept.ofExcept ((RuntimeVersion.parse img.runtime).mapError fun f =>
      .wrap Code.unreadableImage f (p ++ ": bad runtime version"))
    pure (mods ++ [⟨p, img, rt, refs, base⟩], known, req.max rt)

/-- Reads the inputs, binds their references with the given fuel and finds the runtime version
the run needs. -/
def loadWith (finders : List (Finder m)) (w : Workspace) (base : Identity) (fuel : Nat)
    (inputs : List String) : m LoadResult := do
  let read ← MonadExcept.ofExcept (inputs.mapM (readInput w))
  let (mods, _, requirement) ← read.foldlM (loadModule finders w base fuel)
    ([], inputBindings read, RuntimeVersion.zero)
  pure ⟨mods, requirement⟩

end Binding

/-- The identities the images of a workspace reference, file by file; a file that holds no
image references none. -/
def Workspace.referencedIdentities (w : Workspace) : List Identity :=
  w.entries.flatMap fun (_, e) => match e with
    | .file bytes => match Image.decode bytes with
      | .ok img => img.references
      | .error _ => []
    | .directory => []

/-- The fuel for binding: one more than the number of references the workspace's images
hold. -/
def Workspace.bindingFuel (w : Workspace) : Nat := w.referencedIdentities.length + 1

/-- Reads the inputs, binds their references and finds the runtime version the run needs. -/
def load (w : Workspace) (s : Search) (inputs : List String) : Except Fault LoadResult :=
  loadWith (s.steps w) w s.base w.bindingFuel inputs

/-- The explicit map of reference paths: each path under its lower-case file name without
extension; a later path wins. -/
def referenceMap (paths : List String) : List (String × String) :=
  paths.foldl (fun m p =>
    let name := Text.lower (Path.dropExt (Path.base p))
    (m.filter (·.1 != name)) ++ [(name, p)]) []

end NativeExports

import Mathlib
import NativeExports.Export.Candidate
/-!
Purpose: the method entries a scan meets, as a walk over the modules' type trees.

Module by module, the walk lists the module-level function entries and then the method entries
of each type depth first: a type's method entries, then its nested types, leaving out empty type
entries.  Every entry carries its module, the chain of types that enclose it, whether it lies
inside a generic type definition (its own type or an enclosing one is generic), and its method,
none for an empty entry.  Unlike the reference walk of the candidate scan, this one keeps the
generic definitions and the empty method entries.

The scan's visits are these entries, less the empty ones outside generic definitions
(`walkVisits_eq_entries`); the proof is a mutual induction over the nested types, once inside
generic definitions and once outside them.
-/

namespace NativeExports

/-- A method entry of a module, where the walk meets it. -/
structure MethodEntry where
  mod : LoadedModule
  /-- The types enclosing the entry, outermost first. -/
  owners : List TypeDef
  /-- Whether the entry lies inside a generic type definition. -/
  inGeneric : Bool
  /-- The method, none for an empty entry. -/
  method : Option Method

mutual

/-- The method entries of a type and of the types nested in it, depth first.  `inGeneric`
tells whether a type enclosing the type is a generic definition. -/
def entriesInType (mod : LoadedModule) (inGeneric : Bool) (owners : List TypeDef) :
    TypeDef → List MethodEntry
  | t@⟨_, _, _, _, generics, nested, methods⟩ =>
    methods.map (MethodEntry.mk mod (owners ++ [t]) (inGeneric || !generics.isEmpty)) ++
      entriesInTypes mod (inGeneric || !generics.isEmpty) (owners ++ [t]) nested

/-- The method entries of a list of types, in order, skipping empty type entries. -/
def entriesInTypes (mod : LoadedModule) (inGeneric : Bool) (owners : List TypeDef) :
    List (Option TypeDef) → List MethodEntry
  | [] => []
  | none :: rest => entriesInTypes mod inGeneric owners rest
  | some t :: rest => entriesInType mod inGeneric owners t ++ entriesInTypes mod inGeneric owners rest

end

/-- The method entries of the modules, in walk order. -/
def methodEntries (mods : List LoadedModule) : List MethodEntry :=
  mods.flatMap fun mod =>
    mod.image.functions.map (MethodEntry.mk mod [] false) ++ entriesInTypes mod false [] mod.image.types

/-- The visit a scan makes of an entry: none for an empty entry outside generic definitions,
which the scan passes over. -/
def MethodEntry.visit? (e : MethodEntry) : Option Visit :=
  match e.inGeneric, e.method with
  | false, none => none
  | false, some m => some (.method e.mod e.owners m)
  | true, some m => some (.inGeneric e.mod e.owners m)
  | true, none => some .emptyInGeneric

/-- Whether a visit crashes the scan: the visit of an empty entry inside a generic definition. -/
def Visit.crashes : Visit → Bool
  | .emptyInGeneric => true
  | _ => false

/-- Only an empty entry inside a generic definition makes a visit that crashes. -/
theorem MethodEntry.empty_generic_of_crashes {e : MethodEntry} {v : Visit}
    (hvisit : e.visit? = some v) (hcrash : v.crashes = true) :
    e.inGeneric = true ∧ e.method = none := by
  obtain ⟨mod, owners, inGeneric, method⟩ := e
  cases inGeneric <;> cases method <;> simp [MethodEntry.visit?] at hvisit <;>
    subst hvisit <;> simp_all [Visit.crashes]

/-! ### The walk lemma -/

theorem visit?_generic_entries (mod : LoadedModule) (chain : List TypeDef)
    (ms : List (Option Method)) :
    (ms.map (MethodEntry.mk mod chain true)).filterMap MethodEntry.visit? =
      genericMethodVisits mod chain ms := by
  induction ms with
  | nil => rfl
  | cons m ms ih =>
    cases m <;> simpa [genericMethodVisits, MethodEntry.visit?] using ih

theorem visit?_plain_entries (mod : LoadedModule) (owners : List TypeDef)
    (ms : List (Option Method)) :
    (ms.map (MethodEntry.mk mod owners false)).filterMap MethodEntry.visit? =
      methodVisits mod owners ms := by
  induction ms with
  | nil => rfl
  | cons m ms ih =>
    cases m with
    | none =>
      rw [List.map_cons, List.filterMap_cons_none rfl, ih]
      rfl
    | some m => simpa [methodVisits, MethodEntry.visit?] using ih

mutual

/-- Inside a generic definition, the entries of a type are the visits of the generic walk. -/
theorem entriesInType_generic (mod : LoadedModule) :
    ∀ (owners : List TypeDef) (t : TypeDef),
      (entriesInType mod true owners t).filterMap MethodEntry.visit? =
        genericVisits mod (owners ++ [t]) (some t)
  | owners, t@⟨_, _, _, _, generics, nested, methods⟩ => by
    rw [entriesInType, genericVisits, List.filterMap_append, Bool.true_or,
      visit?_generic_entries, entriesInTypes_generic mod _ nested]

theorem entriesInTypes_generic (mod : LoadedModule) :
    ∀ (chain : List TypeDef) (ts : List (Option TypeDef)),
      (entriesInTypes mod true chain ts).filterMap MethodEntry.visit? =
        genericNestedVisits mod chain ts
  | chain, [] => by
    rw [entriesInTypes, genericNestedVisits]
    rfl
  | chain, none :: rest => by
    rw [entriesInTypes, genericNestedVisits]
    exact entriesInTypes_generic mod chain rest
  | chain, some t :: rest => by
    rw [entriesInTypes, genericNestedVisits, List.filterMap_append,
      entriesInType_generic mod chain t, entriesInTypes_generic mod chain rest]

end

mutual

/-- Outside generic definitions, the entries of a type are the visits of the scan's walk. -/
theorem entriesInType_plain (mod : LoadedModule) :
    ∀ (owners : List TypeDef) (t : TypeDef),
      (entriesInType mod false owners t).filterMap MethodEntry.visit? =
        typeVisits mod owners (some t)
  | owners, t@⟨ns, name, vis, vt, generics, nested, methods⟩ => by
    by_cases hplain : generics.isEmpty
    · rw [entriesInType, typeVisits, if_pos hplain, hplain, List.filterMap_append]
      simp only [Bool.not_true, Bool.or_self]
      rw [visit?_plain_entries, entriesInTypes_plain mod _ nested]
    · -- A generic definition turns the rest of its subtree into the generic walk.
      rw [typeVisits, if_neg hplain, ← entriesInType_generic mod owners, entriesInType,
        entriesInType]
      simp [hplain]

theorem entriesInTypes_plain (mod : LoadedModule) :
    ∀ (owners : List TypeDef) (ts : List (Option TypeDef)),
      (entriesInTypes mod false owners ts).filterMap MethodEntry.visit? =
        nestedVisits mod owners ts
  | owners, [] => by
    rw [entriesInTypes, nestedVisits]
    rfl
  | owners, none :: rest => by
    rw [entriesInTypes, nestedVisits, typeVisits, List.nil_append]
    exact entriesInTypes_plain mod owners rest
  | owners, some t :: rest => by
    rw [entriesInTypes, nestedVisits, List.filterMap_append, entriesInType_plain mod owners t,
      entriesInTypes_plain mod owners rest]

end

/-- The walk lemma: the scan visits the method entries in walk order, passing over the empty
ones outside generic definitions. -/
theorem walkVisits_eq_entries (mods : List LoadedModule) :
    (methodEntries mods).filterMap MethodEntry.visit? = walkVisits mods := by
  induction mods with
  | nil => rfl
  | cons mod mods ih =>
    simp only [methodEntries, walkVisits, List.flatMap_cons, List.filterMap_append] at ih ⊢
    rw [ih, visit?_plain_entries, entriesInTypes_plain, moduleVisits]

/-- When every entry inside a generic definition holds a method, no visit of the scan crashes. -/
theorem walkVisits_no_crash {mods : List LoadedModule}
    (hfull : ∀ e ∈ methodEntries mods, e.inGeneric = true → e.method.isSome) :
    ∀ v ∈ walkVisits mods, v.crashes = false := by
  intro v hv
  rw [← walkVisits_eq_entries] at hv
  obtain ⟨e, he, hvisit⟩ := List.mem_filterMap.1 hv
  cases hcrash : v.crashes
  · rfl
  · obtain ⟨hgeneric, hempty⟩ := MethodEntry.empty_generic_of_crashes hvisit hcrash
    simpa [hempty] using hfull e he hgeneric

end NativeExports

import Mathlib
import NativeExports.Assembler.TypeText
/-!
Purpose: describe the rendering of types by the module references it resolves.

Rendering a type gives each module it names an alias the first time it names it, so the text
of a type depends on the alias table it starts from.  Here a rendering step is described by
the list of references it resolves, in order:

* `AliasTable.resolveAll` resolves references one after the other.  The modules it leaves are
  the table's own followed by `AliasTable.newModules`: the modules other than the base library
  that the references name, each key once, in order of first reference (`externs_resolveAll`).
* `Renders step t refs a` says that the step, run from `t`, gives `a` and resolves `refs`, and
  that run again from any table that holds the modules it left, it gives `a` again and leaves
  that table as it is.  Steps compose (`Renders.bind`).
* `TypeSig.scopes` lists the scopes a signature names in the order its text names them, and
  `sigText_renders` says that every signature that renders resolves exactly those.

Main results: `externs_resolveAll`, `AliasTable.declares_of_names`, `sigText_renders`.
-/

namespace NativeExports

/-! ### The scopes a signature names -/

mutual

/-- The scopes a signature names, in the order its text names them: the element of a pointer,
array or by-reference type, and a named type's own scope followed by those of its generic
arguments. -/
def TypeSig.scopes : TypeSig → List Int32
  | ⟨kind, _, elem, _, scope, _, _, _, _, args⟩ =>
    match SigKind.ofCode kind with
    | .byref | .array | .pointer => TypeSig.optScopes elem
    | .named => scope :: TypeSig.argScopes args
    | .primitive | .invalid => []

/-- The scopes an optional signature names; a missing one names none. -/
@[simp] def TypeSig.optScopes : Option TypeSig → List Int32
  | none => []
  | some s => s.scopes

/-- The scopes a list of generic arguments names, argument by argument. -/
@[simp] def TypeSig.argScopes : List (Option TypeSig) → List Int32
  | [] => []
  | a :: rest => TypeSig.optScopes a ++ TypeSig.argScopes rest

end

namespace Assembler

/-- The modules the scopes name under a scoper, skipping scopes it cannot resolve. -/
def scopeRefs (sc : Scoper) (scopes : List Int32) : List (Identity × Bool) :=
  scopes.filterMap fun n => (sc n).toOption

@[simp] theorem scopeRefs_nil (sc : Scoper) : scopeRefs sc [] = [] := rfl

@[simp] theorem scopeRefs_append (sc : Scoper) (xs ys : List Int32) :
    scopeRefs sc (xs ++ ys) = scopeRefs sc xs ++ scopeRefs sc ys :=
  List.filterMap_append

theorem scopeRefs_cons_of_ok {sc : Scoper} {n : Int32} {r : Identity × Bool} (hn : sc n = .ok r)
    (rest : List Int32) : scopeRefs sc (n :: rest) = r :: scopeRefs sc rest := by
  simp [scopeRefs, hn, Except.toOption]

/-! ### Resolving references in order -/

namespace AliasTable

/-- The modules other than the base library that references name, each key once in order of
first reference, that are new to the modules `known`. -/
def newModules (known : List Identity) : List (Identity × Bool) → List Identity
  | [] => []
  | (id, isBase) :: rest =>
    if isBase || known.any (·.key == id.key) then newModules known rest
    else id :: newModules (known ++ [id]) rest

/-- The table after resolving references in order. -/
def resolveAll (t : AliasTable) (refs : List (Identity × Bool)) : AliasTable :=
  refs.foldl (fun t r => (t.resolve r.1 r.2).2) t

/-- A table names a reference to the base library, and one to a module whose key it holds:
resolving such a reference gives no new alias. -/
def Names (t : AliasTable) (r : Identity × Bool) : Prop :=
  r.2 = true ∨ ∃ id ∈ t.externs, id.key = r.1.key

/-- The alias a table gives a reference is `mscorlib` for the base library and otherwise one of
its aliases whose module has the reference's key; giving it adds no module. -/
def Declares (t : AliasTable) (r : Identity × Bool) : Prop :=
  (t.resolve r.1 r.2).2 = t ∧
    if r.2 then (t.resolve r.1 r.2).1 = baseAlias
    else ∃ id, ((t.resolve r.1 r.2).1, id) ∈ t.aliases ∧ id.key = r.1.key

@[simp] theorem resolveAll_nil (t : AliasTable) : t.resolveAll [] = t := rfl

theorem resolveAll_cons (t : AliasTable) (r : Identity × Bool)
    (refs : List (Identity × Bool)) :
    t.resolveAll (r :: refs) = (t.resolve r.1 r.2).2.resolveAll refs := rfl

theorem resolveAll_append (t : AliasTable) (xs ys : List (Identity × Bool)) :
    t.resolveAll (xs ++ ys) = (t.resolveAll xs).resolveAll ys :=
  List.foldl_append

theorem position?_eq_none_iff (t : AliasTable) (id : Identity) :
    t.position? id = none ↔ t.externs.any (·.key == id.key) = false := by
  simp [position?, List.findIdx?_eq_none_iff]

/-- Resolving keeps the table when the reference is to the base library or to a module whose
key the table holds, and appends the module otherwise. -/
theorem resolve_snd (t : AliasTable) (id : Identity) (isBase : Bool) :
    (t.resolve id isBase).2 =
      if isBase || t.externs.any (·.key == id.key) then t
      else { t with externs := t.externs ++ [id] } := by
  cases isBase with
  | true => rfl
  | false =>
    cases hpos : t.position? id with
    | some i =>
      have hany : t.externs.any (·.key == id.key) = true := by
        cases hany : t.externs.any (·.key == id.key)
        · rw [← position?_eq_none_iff] at hany
          simp [hany] at hpos
        · rfl
      simp [resolve, hpos, hany]
    | none =>
      have hany := (position?_eq_none_iff t id).1 hpos
      simp [resolve, hpos, hany]

theorem names_iff (t : AliasTable) (r : Identity × Bool) :
    t.Names r ↔ (r.2 || t.externs.any (·.key == r.1.key)) = true := by
  simp [Names]

theorem resolve_of_names {t : AliasTable} {r : Identity × Bool} (h : t.Names r) :
    (t.resolve r.1 r.2).2 = t := by
  rw [resolve_snd, if_pos ((names_iff t r).1 h)]

theorem names_resolve (t : AliasTable) (r : Identity × Bool) : (t.resolve r.1 r.2).2.Names r := by
  by_cases hknown : t.Names r
  · rwa [resolve_of_names hknown]
  · rw [names_iff] at hknown
    rw [resolve_snd, if_neg hknown, names_iff]
    simp

theorem Names.mono {t t' : AliasTable} {r : Identity × Bool} (h : t.Names r)
    (hholds : t.externs <+: t'.externs) : t'.Names r :=
  h.imp_right fun ⟨id, hmem, hkey⟩ => ⟨id, hholds.subset hmem, hkey⟩

@[simp] theorem base_resolveAll (t : AliasTable) (refs : List (Identity × Bool)) :
    (t.resolveAll refs).base = t.base := by
  induction refs generalizing t with
  | nil => rfl
  | cons r refs ih =>
    rw [resolveAll_cons, ih, resolve_snd]
    split <;> rfl

/-- The modules after resolving references are the table's own followed by the new ones, in
order of first reference. -/
theorem externs_resolveAll (t : AliasTable) (refs : List (Identity × Bool)) :
    (t.resolveAll refs).externs = t.externs ++ newModules t.externs refs := by
  induction refs generalizing t with
  | nil => simp [newModules]
  | cons r refs ih =>
    obtain ⟨id, isBase⟩ := r
    rw [resolveAll_cons, ih, resolve_snd]
    by_cases hknown : (isBase || t.externs.any (·.key == id.key)) = true
    · simp only [if_pos hknown, newModules]
    · simp only [if_neg hknown, newModules, List.append_assoc, List.singleton_append]

theorem externs_prefix_resolveAll (t : AliasTable) (refs : List (Identity × Bool)) :
    t.externs <+: (t.resolveAll refs).externs := by
  rw [externs_resolveAll]
  exact List.prefix_append _ _

theorem names_resolveAll {t : AliasTable} {refs : List (Identity × Bool)} {r : Identity × Bool}
    (hr : r ∈ refs) : (t.resolveAll refs).Names r := by
  induction refs generalizing t with
  | nil => cases hr
  | cons r' refs ih =>
    rw [resolveAll_cons]
    rcases List.mem_cons.1 hr with rfl | hrest
    · exact (names_resolve t r).mono (externs_prefix_resolveAll _ refs)
    · exact ih hrest

/-- References a table already names resolve to nothing new. -/
theorem resolveAll_of_names {t : AliasTable} {refs : List (Identity × Bool)}
    (h : ∀ r ∈ refs, t.Names r) : t.resolveAll refs = t := by
  induction refs with
  | nil => rfl
  | cons r refs ih =>
    rw [resolveAll_cons, resolve_of_names (h r List.mem_cons_self)]
    exact ih fun r' hr' => h r' (List.mem_cons_of_mem r hr')

theorem position?_of_extends {t t' : AliasTable} {id : Identity} {i : Nat}
    (hpos : t.position? id = some i) (hholds : t.externs <+: t'.externs) :
    t'.position? id = some i := by
  obtain ⟨rest, hrest⟩ := hholds
  simp only [position?] at hpos ⊢
  rw [← hrest, List.findIdx?_append, hpos, Option.some_or]

/-- A reference resolved once resolves to the same alias in every table that holds the modules
the first resolution left, and changes nothing there. -/
theorem resolve_of_extends {t t₁ t' : AliasTable} {id : Identity} {isBase : Bool} {a : String}
    (hres : t.resolve id isBase = (a, t₁)) (hholds : t₁.externs <+: t'.externs) :
    t'.resolve id isBase = (a, t') := by
  cases isBase with
  | true =>
    simp only [resolve, if_true, Prod.mk.injEq] at hres ⊢
    exact ⟨hres.1, trivial⟩
  | false =>
    cases hpos : t.position? id with
    | some i =>
      simp only [resolve, hpos, Bool.false_eq_true, if_false, Prod.mk.injEq] at hres
      obtain ⟨rfl, rfl⟩ := hres
      simp [resolve, position?_of_extends hpos hholds]
    | none =>
      simp only [resolve, hpos, Bool.false_eq_true, if_false, Prod.mk.injEq] at hres
      obtain ⟨rfl, rfl⟩ := hres
      -- the module went in right after the table's own, where no earlier module has its key
      obtain ⟨rest, hrest⟩ := hholds
      have hfound : t'.position? id = some t.externs.length := by
        have hnone : t.externs.findIdx? (·.key == id.key) = none := hpos
        simp [position?, ← hrest, List.findIdx?_append, hnone, List.findIdx?_cons]
      simp [resolve, hfound]

/-- A table that names a reference gives it `mscorlib` or one of its own aliases. -/
theorem declares_of_names {t : AliasTable} {r : Identity × Bool} (h : t.Names r) :
    t.Declares r := by
  refine ⟨resolve_of_names h, ?_⟩
  obtain ⟨id, isBase⟩ := r
  cases isBase with
  | true => rfl
  | false =>
    obtain ⟨found, hmem, hkey⟩ := h.resolve_left (by simp)
    -- the alias read off is that of the first module with the key
    obtain ⟨i, hpos⟩ : ∃ i, t.position? id = some i := by
      cases hpos : t.position? id with
      | some i => exact ⟨i, rfl⟩
      | none =>
        have hany := (position?_eq_none_iff t id).1 hpos
        simp only [List.any_eq_false, beq_iff_eq] at hany
        exact absurd hkey (hany found hmem)
    obtain ⟨hlt, hkeyAt, -⟩ := List.findIdx?_eq_some_iff_getElem.1 hpos
    refine ⟨t.externs[i], ?_, by simpa using hkeyAt⟩
    simp only [resolve, hpos, Bool.false_eq_true, if_false, aliases, List.mem_map]
    exact ⟨(t.externs[i], i), List.mem_zipIdx_iff_getElem?.2 (by simp), rfl⟩

end AliasTable

/-! ### Rendering steps -/

section Renders

variable {α β : Type} {t : AliasTable} {refs refs₁ refs₂ : List (Identity × Bool)}

/-- What a rendering step does from table `t`: it gives `a` having resolved `refs` in order,
and run again from any table that holds the modules it left, it gives `a` again and leaves that
table as it is. -/
structure Renders (step : AliasTable → Except Fault α × AliasTable) (t : AliasTable)
    (refs : List (Identity × Bool)) (a : α) : Prop where
  run_eq : step t = (.ok a, t.resolveAll refs)
  rerun_eq : ∀ t', (t.resolveAll refs).externs <+: t'.externs → step t' = (.ok a, t')

/-- A step that gives `a` from every table without touching it resolves nothing. -/
theorem Renders.of_const {step : AliasTable → Except Fault α × AliasTable} {a : α}
    (h : ∀ t, step t = (.ok a, t)) : Renders step t [] a :=
  ⟨h t, fun t' _ => h t'⟩

/-- Run from its table, a step that renders leaves what it resolved. -/
theorem Renders.run_inj {step : AliasTable → Except Fault α × AliasTable} {a a' : α}
    {t' : AliasTable} (h : Renders step t refs a) (hrun : step t = (.ok a', t')) :
    a' = a ∧ t' = t.resolveAll refs := by
  rw [h.run_eq, Prod.mk.injEq, Except.ok.injEq] at hrun
  exact ⟨hrun.1.symm, hrun.2.symm⟩

/-- A step that continues, once `first` gives `a`, with `next` from the table `first` left,
resolves the references of both. -/
theorem Renders.bind {first : AliasTable → Except Fault α × AliasTable}
    {next whole : AliasTable → Except Fault β × AliasTable} {a : α} {b : β}
    (hfirst : Renders first t refs₁ a) (hnext : Renders next (t.resolveAll refs₁) refs₂ b)
    (hwhole : ∀ t₁ t₂, first t₁ = (.ok a, t₂) → whole t₁ = next t₂) :
    Renders whole t (refs₁ ++ refs₂) b := by
  constructor
  · rw [hwhole t _ hfirst.run_eq, hnext.run_eq, AliasTable.resolveAll_append]
  · intro t' hholds
    rw [AliasTable.resolveAll_append] at hholds
    -- the first step left a prefix of what the whole left
    have hfirstHolds : (t.resolveAll refs₁).externs <+: t'.externs :=
      (AliasTable.externs_prefix_resolveAll _ refs₂).trans hholds
    rw [hwhole t' t' (hfirst.rerun_eq t' hfirstHolds), hnext.rerun_eq t' hholds]

end Renders

/-! ### Rendering a type -/

/-- Where the scope names a module, a named type's reference is that module's alias in
brackets before the namespace and the nesting path, and resolving that module is all it does to
the table. -/
theorem typeRef_of_scope {sc : Scoper} {scope : Int32} {ns name : String} {enclosing : List String}
    {id : Identity} {isBase : Bool} (hname : name ≠ "") (hscope : sc scope = .ok (id, isBase))
    (t : AliasTable) :
    typeRef sc scope ns enclosing name t =
      (.ok ("[" ++ (t.resolve id isBase).1 ++ "]" ++ (if ns = "" then "" else quoteDotted ns ++ ".") ++
        String.intercalate "/" ((enclosing ++ [name]).map quoteIdent)), (t.resolve id isBase).2) := by
  simp only [typeRef, hname, hscope, if_false]

/-- A named type's reference renders only for a type with a name whose scope names a module. -/
theorem typeRef_eq_ok {sc : Scoper} {scope : Int32} {ns name text : String}
    {enclosing : List String} {t t' : AliasTable}
    (h : typeRef sc scope ns enclosing name t = (.ok text, t')) :
    name ≠ "" ∧ ∃ id isBase, sc scope = .ok (id, isBase) := by
  by_cases hname : name = ""
  · simp [typeRef, hname] at h
  · cases hscope : sc scope with
    | error e => simp [typeRef, hname, hscope] at h
    | ok r => exact ⟨hname, r.1, r.2, rfl⟩

/-- A named type's reference resolves the module of its scope. -/
theorem typeRef_renders {sc : Scoper} {scope : Int32} {ns : String} {enclosing : List String}
    {name text : String} {t t' : AliasTable}
    (h : typeRef sc scope ns enclosing name t = (.ok text, t')) :
    ∃ r, sc scope = .ok r ∧ Renders (typeRef sc scope ns enclosing name) t [r] text := by
  obtain ⟨hname, id, isBase, hscope⟩ := typeRef_eq_ok h
  rw [typeRef_of_scope hname hscope, Prod.mk.injEq, Except.ok.injEq] at h
  obtain ⟨rfl, -⟩ := h
  refine ⟨(id, isBase), hscope, typeRef_of_scope hname hscope t, fun t'' hholds => ?_⟩
  have hres : t.resolve id isBase = ((t.resolve id isBase).1, t.resolveAll [(id, isBase)]) := rfl
  rw [typeRef_of_scope hname hscope, AliasTable.resolve_of_extends hres hholds]

section ElementKinds

variable {sc : Scoper} {kind prim : UInt8} {elem : Option TypeSig} {rank : Int64}
  {scope : Int32} {ns name : String} {enclosing : List String} {valueType : Bool}
  {args : List (Option TypeSig)}

/-- A by-reference type renders as its element followed by `&`. -/
theorem sigText_byref (hk : SigKind.ofCode kind = .byref) :
    sigText sc ⟨kind, prim, elem, rank, scope, ns, enclosing, name, valueType, args⟩ =
      elemText sc .byref "&" elem := by
  funext t
  simp [sigText, hk]

/-- An array renders as its element followed by the brackets of its rank. -/
theorem sigText_array (hk : SigKind.ofCode kind = .array) :
    sigText sc ⟨kind, prim, elem, rank, scope, ns, enclosing, name, valueType, args⟩ =
      elemText sc .array (rankBrackets rank) elem := by
  funext t
  simp [sigText, hk]

/-- A pointer renders as its element followed by `*`. -/
theorem sigText_pointer (hk : SigKind.ofCode kind = .pointer) :
    sigText sc ⟨kind, prim, elem, rank, scope, ns, enclosing, name, valueType, args⟩ =
      elemText sc .pointer "*" elem := by
  funext t
  simp [sigText, hk]

/-- A named type renders its reference after the kind word, then its generic arguments in angle
brackets when it has any, rendered at the table the reference left. -/
theorem sigText_named_eq_ok {t t' : AliasTable} {text : String} (hk : SigKind.ofCode kind = .named)
    (h : sigText sc ⟨kind, prim, elem, rank, scope, ns, enclosing, name, valueType, args⟩ t =
      (.ok text, t')) :
    ∃ ref t₁, typeRef sc scope ns enclosing name t = (.ok ref, t₁) ∧
      ((args = [] ∧ text = (if valueType then "valuetype " else "class ") ++ ref ∧ t' = t₁) ∨
        ∃ parts, args ≠ [] ∧ argsText sc args t₁ = (.ok parts, t') ∧
          text = (if valueType then "valuetype " else "class ") ++ ref ++ "<" ++
            String.intercalate ", " parts ++ ">") := by
  rcases href : typeRef sc scope ns enclosing name t with ⟨_ | ref, t₁⟩
  · simp [sigText, hk, href] at h
  refine ⟨ref, t₁, rfl, ?_⟩
  by_cases hempty : args.isEmpty
  · obtain rfl : args = [] := List.isEmpty_iff.1 hempty
    simp only [sigText, hk, href, hempty, if_true, Prod.mk.injEq, Except.ok.injEq] at h
    exact .inl ⟨rfl, h.1.symm, h.2.symm⟩
  · rcases hargs : argsText sc args t₁ with ⟨_ | parts, t₂⟩
    · simp [sigText, hk, href, hempty, hargs] at h
    simp only [sigText, hk, href, hempty, hargs, Bool.false_eq_true, if_false, Prod.mk.injEq,
      Except.ok.injEq] at h
    obtain ⟨rfl, rfl⟩ := h
    exact .inr ⟨parts, fun h => hempty (by simp [h]), rfl, rfl⟩

end ElementKinds

mutual

/-- An optional signature that renders resolves the scopes it names. -/
theorem typeText_renders (sc : Scoper) :
    ∀ (sig : Option TypeSig) (t t' : AliasTable) (text : String),
      typeText sc sig t = (.ok text, t') →
        Renders (typeText sc sig) t (scopeRefs sc (TypeSig.optScopes sig)) text
  | none, t, t', text, h => by
    simp only [typeText, Prod.mk.injEq, Except.ok.injEq] at h
    obtain ⟨rfl, -⟩ := h
    exact Renders.of_const fun _ => rfl
  | some s, t, t', text, h => sigText_renders sc s t t' text h

/-- The element of a pointer, array or by-reference type that renders resolves the scopes it
names. -/
theorem elemText_renders (sc : Scoper) (k : SigKind) (suffix : String) :
    ∀ (elem : Option TypeSig) (t t' : AliasTable) (text : String),
      elemText sc k suffix elem t = (.ok text, t') →
        Renders (elemText sc k suffix elem) t (scopeRefs sc (TypeSig.optScopes elem)) text
  | none, t, t', text, h => by simp [elemText] at h
  | some e, t, t', text, h => by
    rcases he : sigText sc e t with ⟨_ | s, t₁⟩
    · simp [elemText, he] at h
    · simp only [elemText, he, Prod.mk.injEq, Except.ok.injEq] at h
      obtain ⟨rfl, -⟩ := h
      have hsuffix : Renders (fun t => (.ok (s ++ suffix), t))
          (t.resolveAll (scopeRefs sc e.scopes)) [] (s ++ suffix) :=
        Renders.of_const fun _ => rfl
      simpa using (sigText_renders sc e t t₁ s he).bind hsuffix fun t₁ t₂ hrun => by
        simp [elemText, hrun]

/-- A signature that renders resolves the scopes it names, in text order. -/
theorem sigText_renders (sc : Scoper) :
    ∀ (s : TypeSig) (t t' : AliasTable) (text : String),
      sigText sc s t = (.ok text, t') → Renders (sigText sc s) t (scopeRefs sc s.scopes) text
  | ⟨kind, prim, elem, rank, scope, ns, enclosing, name, valueType, args⟩, t, t', text, h => by
    cases hk : SigKind.ofCode kind with
    | byref =>
      rw [sigText_byref hk] at h ⊢
      simpa [TypeSig.scopes, hk] using elemText_renders sc .byref "&" elem t t' text h
    | array =>
      rw [sigText_array hk] at h ⊢
      simpa [TypeSig.scopes, hk] using elemText_renders sc .array (rankBrackets rank) elem t t' text h
    | pointer =>
      rw [sigText_pointer hk] at h ⊢
      simpa [TypeSig.scopes, hk] using elemText_renders sc .pointer "*" elem t t' text h
    | primitive =>
      cases hp : Primitive.ofCode? prim with
      | none => simp [sigText, hk, hp] at h
      | some p =>
        simp only [sigText, hk, hp, Prod.mk.injEq, Except.ok.injEq] at h
        obtain ⟨rfl, -⟩ := h
        simpa [TypeSig.scopes, hk] using
          (Renders.of_const (t := t) fun t => by simp [sigText, hk, hp] :
            Renders (sigText sc ⟨kind, prim, elem, rank, scope, ns, enclosing, name, valueType, args⟩)
              t [] p.keyword)
    | invalid => simp [sigText, hk] at h
    | named =>
      obtain ⟨ref, t₁, href, hcase⟩ := sigText_named_eq_ok hk h
      obtain ⟨r, hscope, hrefR⟩ := typeRef_renders href
      obtain ⟨-, rfl⟩ := hrefR.run_inj href
      have hscopes : scopeRefs sc (TypeSig.scopes
          ⟨kind, prim, elem, rank, scope, ns, enclosing, name, valueType, args⟩) =
            [r] ++ scopeRefs sc (TypeSig.argScopes args) := by
        simp [TypeSig.scopes, hk, scopeRefs_cons_of_ok hscope]
      rw [hscopes]
      rcases hcase with ⟨rfl, rfl, -⟩ | ⟨parts, hne, hargs, rfl⟩
      · -- no generic arguments: the reference is the whole text
        refine ⟨by simp [sigText, hk, href], fun t'' hholds => ?_⟩
        simp [sigText, hk, hrefR.rerun_eq t'' (by simpa using hholds)]
      · have hempty := List.isEmpty_eq_false_iff.2 hne
        have hargsR := argsText_renders sc args _ t' parts hargs
        refine ⟨?_, fun t'' hholds => ?_⟩
        · rw [AliasTable.resolveAll_append]
          simp [sigText, hk, href, hempty, hargsR.run_eq]
        -- the reference alone left a prefix of what reference and arguments left
        rw [AliasTable.resolveAll_append] at hholds
        have hrefHolds : (t.resolveAll [r]).externs <+: t''.externs :=
          (AliasTable.externs_prefix_resolveAll _ _).trans hholds
        simp [sigText, hk, hrefR.rerun_eq t'' hrefHolds, hempty, hargsR.rerun_eq t'' hholds]

/-- Generic arguments that render resolve the scopes they name, argument by argument. -/
theorem argsText_renders (sc : Scoper) :
    ∀ (args : List (Option TypeSig)) (t t' : AliasTable) (texts : List String),
      argsText sc args t = (.ok texts, t') →
        Renders (argsText sc args) t (scopeRefs sc (TypeSig.argScopes args)) texts
  | [], t, t', texts, h => by
    simp only [argsText, Prod.mk.injEq, Except.ok.injEq] at h
    obtain ⟨rfl, -⟩ := h
    exact Renders.of_const fun _ => rfl
  | a :: rest, t, t', texts, h => by
    rcases ha : typeText sc a t with ⟨_ | s, t₁⟩
    · simp [argsText, ha] at h
    · rcases hrest : argsText sc rest t₁ with ⟨_ | ss, t₂⟩
      · simp [argsText, ha, hrest] at h
      · simp only [argsText, ha, hrest, Prod.mk.injEq, Except.ok.injEq] at h
        obtain ⟨rfl, -⟩ := h
        have hfirst := typeText_renders sc a t t₁ s ha
        obtain ⟨-, rfl⟩ := hfirst.run_inj ha
        have hrestR := argsText_renders sc rest _ t₂ ss hrest
        refine ⟨by simp [argsText, ha, hrestR.run_eq, AliasTable.resolveAll_append],
          fun t'' hholds => ?_⟩
        simp only [TypeSig.argScopes, scopeRefs_append, AliasTable.resolveAll_append] at hholds
        have hfirstHolds : (t.resolveAll (scopeRefs sc (TypeSig.optScopes a))).externs <+:
            t''.externs :=
          (AliasTable.externs_prefix_resolveAll _ _).trans hholds
        simp [argsText, hfirst.rerun_eq t'' hfirstHolds, hrestR.rerun_eq t'' hholds]

end

end Assembler

end NativeExports

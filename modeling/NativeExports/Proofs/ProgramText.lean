import Mathlib
import NativeExports.Assembler.Program
import NativeExports.Proofs.AliasResolution
import NativeExports.Proofs.OrdinalAllocation
/-!
Purpose: the layout of the assembler program written for an ordinal table, and the aliases it
declares for the modules its stubs name.

A program is the declaration of the base library under `mscorlib`, the declarations of the
other modules under their aliases, the assembly header, and one stub per entry of the table
in the table's order, which is increasing by ordinal.  The aliases are given while the stubs
render, each time a stub names a module for the first time.  So the modules declared are the
modules other than the base library that the stubs' text names, each key once, in the order
the text first names them (`bodyRefs` lists the references in text order).

The text order and the order of rendering differ in one place: a stub's call line prints the
declaring type before the parameters but renders it after them.  Both orders leave the same
alias table (`resolveAll_stub_order`), because the stub's header has already named every
parameter type.

The proof describes every rendering function by the references it resolves (`Resolves`, on
top of `Renders` from the alias module), one lemma per function, and composes them the way
the functions compose.

Main result: `program_text_layout`.
-/

namespace NativeExports.Assembler

open AliasTable

variable {α β γ : Type}

/-! ### Running a rendering -/

/-- A composed rendering runs its second part from the table the first left, unless the first
failed. -/
theorem run_bind (r : Render α) (f : α → Render β) (t : AliasTable) :
    (r >>= f).run.run t = match r.run.run t with
      | (.ok a, t₁) => (f a).run.run t₁
      | (.error e, t₁) => (.error e, t₁) := by
  rcases hr : r.run.run t with ⟨_ | a, t₁⟩ <;>
    simp only [ExceptT.run_bind, StateT.run_bind, hr] <;> rfl

theorem run_bind_eq_ok {r : Render α} {f : α → Render β} {t t' : AliasTable} {b : β}
    (h : (r >>= f).run.run t = (.ok b, t')) :
    ∃ a t₁, r.run.run t = (.ok a, t₁) ∧ (f a).run.run t₁ = (.ok b, t') := by
  rw [run_bind] at h
  rcases hr : r.run.run t with ⟨_ | a, t₁⟩
  · simp only [hr] at h
    cases h
  · simp only [hr] at h
    exact ⟨a, t₁, rfl, h⟩

theorem run_pure_eq_ok {a b : α} {t t' : AliasTable}
    (h : (pure a : Render α).run.run t = (.ok b, t')) : b = a ∧ t' = t := by
  change ((.ok a, t) : Except Fault α × AliasTable) = (.ok b, t') at h
  simp only [Prod.mk.injEq, Except.ok.injEq] at h
  exact ⟨h.1.symm, h.2.symm⟩

/-- A rendering that names its failure runs as the rendering it names, with its fault
rewritten. -/
theorem run_naming (c : Candidate) (what : String) (r : Render α) (t : AliasTable) :
    (naming c what r).run.run t = match r.run.run t with
      | (.ok a, t₁) => (.ok a, t₁)
      | (.error e, t₁) => (.error (entityFault c what e), t₁) := by
  rcases hr : r.run.run t with ⟨_ | a, t₁⟩ <;>
    simp only [naming, ExceptT.run_tryCatch, StateT.run_bind, hr] <;> rfl

/-! ### Renderings that resolve what they name -/

/-- Whenever the rendering succeeds, from whatever table, it resolves `refs`. -/
def Resolves (r : Render α) (refs : List (Identity × Bool)) : Prop :=
  ∀ ⦃t t' : AliasTable⦄ ⦃a : α⦄, r.run.run t = (.ok a, t') →
    Renders (fun t => r.run.run t) t refs a

theorem resolves_pure (a : α) : Resolves (pure a : Render α) [] := by
  intro t t' b h
  obtain ⟨rfl, -⟩ := run_pure_eq_ok h
  exact Renders.of_const fun _ => rfl

theorem Resolves.bind {r : Render α} {f : α → Render β} {refs₁ refs₂ : List (Identity × Bool)}
    (hr : Resolves r refs₁) (hf : ∀ a, Resolves (f a) refs₂) :
    Resolves (r >>= f) (refs₁ ++ refs₂) := by
  intro t t' b h
  obtain ⟨a, t₁, hfirst, hnext⟩ := run_bind_eq_ok h
  have hfirstR := hr hfirst
  obtain ⟨-, rfl⟩ := hfirstR.run_inj hfirst
  exact hfirstR.bind (hf a hnext) fun t₁ t₂ hrun => by rw [run_bind, hrun]

/-- References that leave the same table from every table can stand for each other. -/
theorem Resolves.congr {r : Render α} {refs refs' : List (Identity × Bool)} (hr : Resolves r refs)
    (hsame : ∀ t : AliasTable, t.resolveAll refs = t.resolveAll refs') : Resolves r refs' := by
  intro t t' a h
  have hR := hr h
  exact ⟨by rw [← hsame]; exact hR.run_eq, fun t'' hholds => hR.rerun_eq t'' (by rwa [hsame])⟩

theorem Resolves.naming {r : Render α} {refs : List (Identity × Bool)} (hr : Resolves r refs)
    (c : Candidate) (what : String) : Resolves (naming c what r) refs := by
  intro t t' a h
  rw [run_naming] at h
  rcases hrun : r.run.run t with ⟨_ | a', t₁⟩
  · simp only [hrun] at h
    cases h
  · simp only [hrun] at h
    cases h
    have hR := hr hrun
    exact ⟨by rw [run_naming, hR.run_eq], fun t'' hholds => by rw [run_naming, hR.rerun_eq t'' hholds]⟩

theorem resolves_liftExcept (e : Except Fault α) : Resolves (liftExcept e) [] := by
  cases e with
  | error f =>
    intro t t' a h
    cases h
  | ok a => exact resolves_pure a

theorem Resolves.mapM {f : γ → Render α} {refsOf : γ → List (Identity × Bool)} :
    ∀ {xs : List γ}, (∀ x ∈ xs, Resolves (f x) (refsOf x)) →
      Resolves (xs.mapM f) (xs.flatMap refsOf)
  | [], _ => by simpa using resolves_pure ([] : List α)
  | x :: xs, hf => by
    have hrest : Resolves (xs.mapM f) (xs.flatMap refsOf) :=
      Resolves.mapM fun y hy => hf y (List.mem_cons_of_mem x hy)
    rw [List.mapM_cons, List.flatMap_cons]
    simpa using (hf x List.mem_cons_self).bind fun a => hrest.bind fun as => resolves_pure (a :: as)

/-- Each element of a mapped rendering that succeeded renders its own result again from any
table that holds the modules the whole left. -/
theorem mapM_forall₂ {f : γ → Render α} {refsOf : γ → List (Identity × Bool)} :
    ∀ {xs : List γ} {t t' : AliasTable} {as : List α}, (∀ x ∈ xs, Resolves (f x) (refsOf x)) →
      (xs.mapM f).run.run t = (.ok as, t') →
      List.Forall₂ (fun x a => ∀ t'', t'.externs <+: t''.externs → (f x).run.run t'' = (.ok a, t''))
        xs as
  | [], t, t', as, _, h => by
    obtain ⟨rfl, -⟩ := run_pure_eq_ok h
    exact List.Forall₂.nil
  | x :: xs, t, t', as, hf, h => by
    have hrestAll : ∀ y ∈ xs, Resolves (f y) (refsOf y) := fun y hy => hf y (List.mem_cons_of_mem x hy)
    rw [List.mapM_cons] at h
    obtain ⟨a, t₁, hx, hrest⟩ := run_bind_eq_ok h
    obtain ⟨as', t₂, hxs, hpure⟩ := run_bind_eq_ok hrest
    obtain ⟨rfl, rfl⟩ := run_pure_eq_ok hpure
    have hxR := hf x List.mem_cons_self hx
    obtain ⟨-, rfl⟩ := hxR.run_inj hx
    obtain ⟨-, rfl⟩ := (Resolves.mapM hrestAll hxs).run_inj hxs
    refine List.Forall₂.cons (fun t'' hholds => hxR.rerun_eq t'' ?_) (mapM_forall₂ hrestAll hxs)
    exact (externs_prefix_resolveAll _ _).trans hholds

/-! ### What each part of a stub resolves -/

theorem resolves_renderType (sc : Scoper) (sig : Option TypeSig) :
    Resolves (renderType sc sig) (scopeRefs sc (TypeSig.optScopes sig)) :=
  fun t t' text h => typeText_renders sc sig t t' text h

theorem resolves_renderRef (sc : Scoper) (scope : Int32) (ns : String) (enclosing : List String)
    (name : String) : Resolves (renderRef sc scope ns enclosing name) (scopeRefs sc [scope]) := by
  intro t t' text h
  obtain ⟨r, hscope, hR⟩ := typeRef_renders h
  rwa [scopeRefs_cons_of_ok hscope, scopeRefs_nil]

/-- A parameter at the boundary resolves what its type names; its marshalling names no module. -/
theorem resolves_boundaryParam (sc : Scoper) (p : Param) :
    Resolves (boundaryParam sc p) (scopeRefs sc (TypeSig.optScopes p.type)) := by
  rw [← List.append_nil (scopeRefs sc _)]
  refine (resolves_renderType sc p.type).bind fun ty => ?_
  split
  · exact resolves_pure _
  · rw [← List.nil_append []]
    exact (resolves_liftExcept _).bind fun _ => resolves_pure _

/-- The declaring type is named through scope 0, the module itself. -/
theorem resolves_ownerRef (c : Candidate) : Resolves (ownerRef c) (scopeRefs c.module.scope [0]) := by
  unfold ownerRef
  split
  · exact resolves_renderRef _ _ _ _ _
  · exact resolves_renderRef _ _ _ _ _

/-- The references of the parameter types, parameter by parameter. -/
def paramRefs (sc : Scoper) (ps : List Param) : List (Identity × Bool) :=
  ps.flatMap fun p => scopeRefs sc (TypeSig.optScopes p.type)

/-- The call target renders the return type, the parameter types, then the declaring type. -/
theorem resolves_callTarget (c : Candidate) :
    Resolves (callTarget c)
      (scopeRefs c.module.scope (TypeSig.optScopes c.method.returns.type) ++
        (paramRefs c.module.scope c.method.params ++ (scopeRefs c.module.scope [0] ++ []))) := by
  unfold callTarget
  exact (resolves_renderType _ _).bind fun _ =>
    (Resolves.mapM fun p _ => resolves_renderType _ _).bind fun _ =>
      (resolves_ownerRef c).bind fun _ => resolves_pure _

/-! ### Text order -/

/-- The scopes a stub's text names, in text order: its header names the return type and the
parameter types, and its call line the return type, the declaring type (scope 0) and the
parameter types. -/
def stubScopes (m : Method) : List Int32 :=
  let ret := TypeSig.optScopes m.returns.type
  let params := m.params.flatMap fun p => TypeSig.optScopes p.type
  ret ++ params ++ (ret ++ [0] ++ params)

/-- The modules a program's stubs name, stub by stub in ordinal order, in text order. -/
def bodyRefs (table : OrdinalTable) : List (Identity × Bool) :=
  table.entries.flatMap fun e => scopeRefs e.candidate.module.scope (stubScopes e.candidate.method)

theorem scopeRefs_flatMap (sc : Scoper) (ps : List Param) :
    scopeRefs sc (ps.flatMap fun p => TypeSig.optScopes p.type) = paramRefs sc ps :=
  List.filterMap_flatMap

/-- The call line names its declaring type before its parameters but renders it after them.
Both orders leave the same table, because the header has named the parameters already. -/
theorem resolveAll_stub_order (t : AliasTable) (ret params owner : List (Identity × Bool)) :
    t.resolveAll (ret ++ params ++ (ret ++ (params ++ owner))) =
      t.resolveAll (ret ++ params ++ (ret ++ owner ++ params)) := by
  -- after the header, the table names the return and parameter types
  let header := t.resolveAll (ret ++ params)
  have hknown : ∀ r ∈ ret ++ params, header.Names r := fun r hr => names_resolveAll hr
  have hret : header.resolveAll ret = header :=
    resolveAll_of_names fun r hr => hknown r (List.mem_append_left params hr)
  have hparams : header.resolveAll params = header :=
    resolveAll_of_names fun r hr => hknown r (List.mem_append_right ret hr)
  have hparamsAfter : (header.resolveAll owner).resolveAll params = header.resolveAll owner :=
    resolveAll_of_names fun r hr =>
      (hknown r (List.mem_append_right ret hr)).mono (externs_prefix_resolveAll _ owner)
  calc t.resolveAll (ret ++ params ++ (ret ++ (params ++ owner)))
      = ((header.resolveAll ret).resolveAll params).resolveAll owner := by
        simp only [resolveAll_append, header]
    _ = header.resolveAll owner := by rw [hret, hparams]
    _ = ((header.resolveAll ret).resolveAll owner).resolveAll params := by
        rw [hret, hparamsAfter]
    _ = t.resolveAll (ret ++ params ++ (ret ++ owner ++ params)) := by
        simp only [resolveAll_append, header]

/-- A stub resolves the modules its text names, in text order. -/
theorem resolves_stub (ordinal : Nat) (name : String) (c : Candidate) :
    Resolves (stub ordinal name c) (scopeRefs c.module.scope (stubScopes c.method)) := by
  let sc := c.module.scope
  let ret := scopeRefs sc (TypeSig.optScopes c.method.returns.type)
  let params := paramRefs sc c.method.params
  let indexed := c.method.params.zip (List.range c.method.params.length)
  -- the parameters are rendered with their positions; the positions name no module
  have hindexed : indexed.flatMap (fun x => scopeRefs sc (TypeSig.optScopes x.1.type) ++ []) =
      params := by
    have hfst : indexed.map Prod.fst = c.method.params := List.map_fst_zip (by simp)
    simp only [List.append_nil, params, paramRefs, ← hfst, List.flatMap_map]
  have hrendered : Resolves (stub ordinal name c)
      (ret ++ (indexed.flatMap (fun x => scopeRefs sc (TypeSig.optScopes x.1.type) ++ []) ++
        ((ret ++ (params ++ (scopeRefs sc [0] ++ []))) ++ []))) := by
    unfold stub
    refine ((resolves_boundaryParam sc _).naming _ _).bind fun _ =>
      (Resolves.mapM fun x _ => ?_).bind fun _ =>
        ((resolves_callTarget c).naming _ _).bind fun _ => resolves_pure _
    obtain ⟨p, i⟩ := x
    exact ((resolves_boundaryParam sc p).naming _ _).bind fun _ => resolves_pure _
  rw [hindexed] at hrendered
  refine hrendered.congr fun t => ?_
  have htext : scopeRefs c.module.scope (stubScopes c.method) =
      ret ++ params ++ (ret ++ scopeRefs sc [0] ++ params) := by
    simp only [stubScopes, scopeRefs_append, scopeRefs_flatMap, ret, params, sc]
  rw [htext, ← resolveAll_stub_order]
  simp

/-! ### The stubs' text -/

/-- A stub text opens the method `_export_<ordinal>` and declares it as the export of `name` at
that ordinal. -/
def DeclaresExport (ordinal : Nat) (name text : String) : Prop :=
  ∃ ret params rest : String,
    text = ".method public static " ++ ret ++ " " ++ "_export_" ++ toString ordinal ++ "(" ++
      params ++ ") cil managed\n\x7b\n" ++ "  .export [" ++ toString ordinal ++ "] as " ++
      quoteSingle name ++ "\n" ++ rest

theorem stub_declaresExport {ordinal : Nat} {name text : String} {c : Candidate}
    {t t' : AliasTable} (h : (stub ordinal name c).run.run t = (.ok text, t')) :
    DeclaresExport ordinal name text := by
  unfold stub at h
  obtain ⟨ret, t₁, -, h⟩ := run_bind_eq_ok h
  obtain ⟨params, t₂, -, h⟩ := run_bind_eq_ok h
  obtain ⟨target, t₃, -, h⟩ := run_bind_eq_ok h
  obtain ⟨rfl, -⟩ := run_pure_eq_ok h
  -- the rest of the text is whatever follows the export line
  exact ⟨ret, String.intercalate ", " params, _, by simp only [stubName, String.append_assoc]; rfl⟩

/-- A program is its declarations and header followed by the stubs the table's entries render,
and leaves the table the stubs left. -/
theorem program_run {table : OrdinalTable} {output text : String} {t final : AliasTable}
    (h : (program table output).run.run t = (.ok text, final)) :
    ∃ parts, (table.entries.mapM fun e => stub e.ordinal e.name e.candidate).run.run t =
        (.ok parts, final) ∧
      text = externDecl final.base baseAlias ++
        String.join (final.aliases.map fun (a, id) => externDecl id a) ++
        assemblyHeader output ++ String.join (parts.map (· ++ "\n")) := by
  unfold program at h
  obtain ⟨body, t₁, hbody, h⟩ := run_bind_eq_ok h
  obtain ⟨t₂, t₃, hget, h⟩ := run_bind_eq_ok h
  obtain ⟨rfl, rfl⟩ : t₂ = t₁ ∧ t₃ = t₁ := by
    change ((.ok t₁, t₁) : Except Fault AliasTable × AliasTable) = (.ok t₂, t₃) at hget
    simp only [Prod.mk.injEq, Except.ok.injEq] at hget
    exact ⟨hget.1.symm, hget.2.symm⟩
  obtain ⟨rfl, rfl⟩ := run_pure_eq_ok h
  unfold stubs at hbody
  obtain ⟨parts, t₄, hparts, hjoin⟩ := run_bind_eq_ok hbody
  obtain ⟨rfl, rfl⟩ := run_pure_eq_ok hjoin
  exact ⟨parts, hparts, rfl⟩

/-- The layout of the text of a program written for `table` to `output` from an alias table
for the base library `base` that holds no module yet, and of the alias table `final` it left. -/
structure ProgramLayout (table : OrdinalTable) (output : String) (base : Identity) (text : String)
    (final : AliasTable) : Prop where
  /-- The base library declared first is the one the writing started with. -/
  base_eq : final.base = base
  /-- The modules declared after it are those other than the base library that the stubs' text
  names, each key once, in the order the text first names them. -/
  externs_eq : final.externs = newModules [] (bodyRefs table)
  /-- Every module the stubs' text names gets `mscorlib` when it is the base library, and
  otherwise the alias of a declared module with its key. -/
  declares : ∀ r ∈ bodyRefs table, final.Declares r
  /-- The entries, and so the stubs, come in strictly increasing order of ordinal. -/
  increasing : table.entries.Pairwise fun a b => a.ordinal < b.ordinal
  /-- The text declares the base library under `mscorlib`, then the modules of the aliases
  `asm1`, `asm2`, … in order, then the assembly, then one stub per entry, in the entries'
  order; each stub is what it renders from the final alias table, and opens the method
  `_export_<ordinal>` declared as the export of the entry's name at its ordinal. -/
  text_eq : ∃ stubTexts : List String,
    text = externDecl base baseAlias ++
        String.join (final.aliases.map fun (a, id) => externDecl id a) ++
        assemblyHeader output ++ String.join (stubTexts.map (· ++ "\n")) ∧
      List.Forall₂ (fun e s => (stub e.ordinal e.name e.candidate).run.run final = (.ok s, final) ∧
        DeclaresExport e.ordinal e.name s) table.entries stubTexts

/-- The program written for a table that ordinal allocation built, from an alias table that
holds no module yet, has the layout `ProgramLayout` describes. -/
theorem program_text_layout {cands : List Candidate} {table : OrdinalTable} {base : Identity}
    {output text : String} {final : AliasTable}
    (hbuilt : OrdinalTable.allocate cands = .ok table)
    (hrun : (program table output).run.run (AliasTable.empty base) = (.ok text, final)) :
    ProgramLayout table output base text final := by
  obtain ⟨parts, hstubs, htext⟩ := program_run hrun
  have hall : ∀ e ∈ table.entries, Resolves (stub e.ordinal e.name e.candidate)
      (scopeRefs e.candidate.module.scope (stubScopes e.candidate.method)) :=
    fun e _ => resolves_stub e.ordinal e.name e.candidate
  -- the final table is the empty one after the references of the body, in text order
  obtain ⟨-, hfinal⟩ := (Resolves.mapM hall hstubs).run_inj hstubs
  have hbase : final.base = base := by rw [hfinal, base_resolveAll]; rfl
  refine ⟨hbase, by rw [hfinal, externs_resolveAll]; rfl, fun r hr => ?_,
    (OrdinalTable.allocation_of_ok hbuilt).increasing, parts, by rw [htext, hbase], ?_⟩
  · rw [hfinal]
    exact declares_of_names (names_resolveAll hr)
  · refine (mapM_forall₂ hall hstubs).imp fun e s hrerun => ?_
    have hagain := hrerun final (List.prefix_refl _)
    exact ⟨hagain, stub_declaresExport hagain⟩

/-- A parameter of type `Dep.Handles.Handle` from the module's first reference. -/
def handleParam : Param :=
  { Param.blank with
    name := "h"
    type := some (TypeSig.named 1 "Dep.Handles" "Handle" []) }

/-- A public static module-level function `Open` taking a handle. -/
def openMethod : Method :=
  { Method.blank with
    name := "Open"
    visibility := visibilityPublic
    isStatic := true
    params := [handleParam] }

/-- A module `Lib` that references a module `Dep`. -/
def libModule : LoadedModule :=
  { (default : LoadedModule) with
    image := { Image.blank with identity := ⟨"Lib", ⟨1, 0, 0, 0⟩, [], ""⟩ }
    refs := [⟨⟨"Dep", ⟨2, 0, 0, 0⟩, [], ""⟩, "Dep.dll", false⟩]
    base := Identity.defaultBase }

/-- `Open` exported under its own name at ordinal 3. -/
def openCandidate : Candidate := ⟨libModule, [], openMethod, "Open", 3⟩

/-- The table of `openCandidate` alone, written to `out/Native.dll`: `Dep` becomes `asm1`, as
the header names it first, and `Lib` `asm2`. -/
theorem program_text_layout_open :
    ∃ table text final, OrdinalTable.allocate [openCandidate] = .ok table ∧
      (program table "out/Native.dll").run.run (AliasTable.empty Identity.defaultBase) =
        (.ok text, final) ∧
      final.externs.map (·.name) = ["Dep", "Lib"] ∧
      ProgramLayout table "out/Native.dll" Identity.defaultBase text final := by
  have hbuilt : OrdinalTable.allocate [openCandidate] = .ok ⟨[⟨3, "Open", openCandidate⟩]⟩ := by
    rw [OrdinalTable.allocate_of_fits (by decide) (by simp [autoCandidates, openCandidate])]
    simp [promisedEntries, autoCandidates, openCandidate, OrdinalEntry.ofCandidate]
  obtain ⟨text, final, hrun⟩ : ∃ text final,
      (program ⟨[⟨3, "Open", openCandidate⟩]⟩ "out/Native.dll").run.run
        (AliasTable.empty Identity.defaultBase) = (.ok text, final) :=
    ⟨_, _, rfl⟩
  have hnames : final.externs.map (·.name) = ["Dep", "Lib"] := by
    have hfinal : final = ((program ⟨[⟨3, "Open", openCandidate⟩]⟩ "out/Native.dll").run.run
        (AliasTable.empty Identity.defaultBase)).2 := by rw [hrun]
    rw [hfinal]
    decide
  exact ⟨_, text, final, hbuilt, hrun, hnames, program_text_layout hbuilt hrun⟩

end NativeExports.Assembler

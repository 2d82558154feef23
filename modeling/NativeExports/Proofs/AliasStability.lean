import Mathlib
import NativeExports.Session
import NativeExports.Proofs.ProgramText
import NativeExports.Proofs.IdentityKey
/-!
Purpose: the alias table stays well formed under every sequence of resolutions, and rendering
is stable: rendered again from the table it left, a rendering gives the same outcome and no new
alias.

A table keeps its modules in order of first use and reads each alias off a position, so the
`i`-th alias is `asm(i+1)` by construction; an identity is looked up by its key
(`AliasTable.lookup`).  `AliasTable.Consistent` is the representation invariant: the aliases are
`asm1`, `asm2`, … in order, no two modules share a key, and the lookup finds exactly the alias
of the module with an identity's key.  The empty table has it and each resolution keeps it
(`consistent_resolve`), so every sequence of resolutions keeps it (`consistent_resolveAll`).

`Stable step` says what every rendering step does, whether it succeeds or fails: it resolves
references in order, and run again from any table that holds what it left, it gives the same
outcome and leaves that table as it is.  One lemma per renderer, composed the way the renderers
compose, shows that type references, signatures, stubs and the stubs of a program are stable
(`stable_sigText`, `stable_stubs`).  A program then renders twice to the same text
(`program_twice`), and so does a session's program emitted twice (`Session.emit_twice`).

Main result: `alias_table_discipline`.
-/

namespace NativeExports.Assembler

namespace AliasTable

/-! ### The representation invariant -/

/-- The keys of the modules that have aliases, in order. -/
def keys (t : AliasTable) : List String := t.externs.map Identity.key

/-- The alias the table holds for an identity's key, if any. -/
def lookup (t : AliasTable) (id : Identity) : Option String := (t.position? id).map aliasAt

/-- The representation invariant of an alias table: the aliases are `asm1`, `asm2`, … in order,
no two modules share a key, and looking an identity up finds exactly the alias of the module
with its key. -/
structure Consistent (t : AliasTable) : Prop where
  names : ∀ (i : Nat) (h : i < t.aliases.length), t.aliases[i].1 = "asm" ++ toString (i + 1)
  keys_nodup : t.keys.Nodup
  lookup_iff : ∀ id a, t.lookup id = some a ↔ ∃ m, (a, m) ∈ t.aliases ∧ m.key = id.key

@[simp] theorem length_aliases (t : AliasTable) : t.aliases.length = t.externs.length := by
  simp [aliases]

theorem getElem?_aliases (t : AliasTable) (i : Nat) :
    t.aliases[i]? = t.externs[i]?.map fun m => (aliasAt i, m) := by
  simp [aliases, Function.comp_def]

theorem mem_aliases {t : AliasTable} {a : String} {m : Identity} :
    (a, m) ∈ t.aliases ↔ ∃ i, aliasAt i = a ∧ t.externs[i]? = some m := by
  simp only [List.mem_iff_getElem?, getElem?_aliases, Option.map_eq_some_iff, Prod.mk.injEq]
  constructor
  · rintro ⟨i, m', hm', rfl, rfl⟩
    exact ⟨i, rfl, hm'⟩
  · rintro ⟨i, rfl, hm⟩
    exact ⟨i, m, hm, rfl, rfl⟩

theorem mem_keys_iff (t : AliasTable) (id : Identity) :
    id.key ∈ t.keys ↔ t.externs.any (·.key == id.key) = true := by
  simp only [keys, List.mem_map, List.any_eq_true, beq_iff_eq]

/-- With keys that are pairwise distinct, an identity's position is the one module with its
key. -/
theorem position?_eq_some_iff {t : AliasTable} (hnd : t.keys.Nodup) {id : Identity} {i : Nat} :
    t.position? id = some i ↔ ∃ m, t.externs[i]? = some m ∧ m.key = id.key := by
  rw [position?, List.findIdx?_eq_some_iff_getElem]
  constructor
  · rintro ⟨h, hkey, -⟩
    exact ⟨t.externs[i], List.getElem?_eq_getElem h, by simpa using hkey⟩
  · rintro ⟨m, hm, hkey⟩
    obtain ⟨h, rfl⟩ := List.getElem?_eq_some_iff.1 hm
    refine ⟨h, by simpa using hkey, fun j hj => ?_⟩
    -- an earlier module with the same key would repeat a key
    have hj' : j < t.keys.length := by simp [keys]; omega
    have hi' : i < t.keys.length := by simp [keys]; omega
    have hne : t.keys[j] ≠ t.keys[i] := fun heq => absurd ((hnd.getElem_inj_iff).1 heq) (by omega)
    simp only [keys, List.getElem_map] at hne
    simpa [hkey] using hne

/-- The aliases are always `asm1`, `asm2`, … in order, and keys that are pairwise distinct make
the lookup find exactly the alias of the module with an identity's key. -/
theorem Consistent.of_nodup {t : AliasTable} (hnd : t.keys.Nodup) : t.Consistent where
  names i h := by
    have heq := getElem?_aliases t i
    rw [List.getElem?_eq_getElem h, List.getElem?_eq_getElem (by simpa using h), Option.map_some]
      at heq
    rw [Option.some.inj heq]
    rfl
  keys_nodup := hnd
  lookup_iff id a := by
    simp only [lookup, Option.map_eq_some_iff, position?_eq_some_iff hnd, mem_aliases]
    constructor
    · rintro ⟨i, ⟨m, hm, hkey⟩, rfl⟩
      exact ⟨m, ⟨i, rfl, hm⟩, hkey⟩
    · rintro ⟨m, ⟨i, rfl, hm⟩, hkey⟩
      exact ⟨i, ⟨m, hm, hkey⟩, rfl⟩

theorem consistent_empty (base : Identity) : (empty base).Consistent :=
  .of_nodup List.nodup_nil

/-- One resolution keeps a table consistent: it adds a module only when no module has its key. -/
theorem consistent_resolve {t : AliasTable} (ht : t.Consistent) (id : Identity) (isBase : Bool) :
    (t.resolve id isBase).2.Consistent := by
  rw [resolve_snd]
  split
  · exact ht
  · rename_i hfresh
    have hnew : id.key ∉ t.keys := by
      rw [mem_keys_iff]
      simp_all
    refine .of_nodup ?_
    simp only [keys, List.map_append, List.map_cons, List.map_nil, List.nodup_append,
      List.nodup_cons, List.not_mem_nil, not_false_eq_true, List.nodup_nil, and_self, true_and]
    refine ⟨ht.keys_nodup, fun k hk k' hk' => ?_⟩
    rw [List.mem_singleton.1 hk']
    exact fun hkey => hnew (hkey ▸ hk)

/-- Every sequence of resolutions keeps a table consistent. -/
theorem consistent_resolveAll {t : AliasTable} (ht : t.Consistent) (refs : List (Identity × Bool)) :
    (t.resolveAll refs).Consistent := by
  induction refs generalizing t with
  | nil => exact ht
  | cons r refs ih =>
    rw [resolveAll_cons]
    exact ih (consistent_resolve ht r.1 r.2)

/-! ### What one resolution gives -/

/-- A module other than the base library adds an alias exactly when its key is new. -/
theorem resolve_eq_self_iff (t : AliasTable) (id : Identity) :
    (t.resolve id false).2 = t ↔ id.key ∈ t.keys := by
  rw [resolve_snd, mem_keys_iff, Bool.false_or]
  constructor
  · intro h
    by_contra hnew
    rw [if_neg hnew] at h
    -- the table would have grown by one module
    have hlen := congrArg (·.externs.length) h
    simp at hlen
  · intro h
    rw [if_pos h]

/-- At a table that holds an identity's key, every identity with that key resolves as it does. -/
theorem resolve_congr_key {t : AliasTable} {id id' : Identity} (hkey : id.key = id'.key)
    (hheld : (t.resolve id false).2 = t) : t.resolve id' false = t.resolve id false := by
  cases hpos : t.position? id with
  | some i => simp [resolve, position?_congr t hkey.symm, hpos]
  | none =>
    simp only [resolve, hpos, Bool.false_eq_true, if_false] at hheld
    have hlen := congrArg (·.externs.length) hheld
    simp at hlen

/-- Once an identity is resolved, every identity with its key resolves to the same alias after
any further resolutions, and adds no alias. -/
theorem resolve_key_stable (t : AliasTable) {id id' : Identity} (hkey : id.key = id'.key)
    (refs : List (Identity × Bool)) :
    ((t.resolve id false).2.resolveAll refs).resolve id' false =
      ((t.resolve id false).1, (t.resolve id false).2.resolveAll refs) := by
  have hagain : ((t.resolve id false).2.resolveAll refs).resolve id false =
      ((t.resolve id false).1, (t.resolve id false).2.resolveAll refs) :=
    resolve_of_extends rfl (externs_prefix_resolveAll _ refs)
  rw [resolve_congr_key hkey (by rw [hagain]), hagain]

end AliasTable

/-! ### Stable rendering steps -/

section Stable

variable {γ δ α β ε : Type}

/-- A rendering step that, from any table, resolves references in order, and run again from any
table that holds the modules it left gives the same outcome, success or failure, and leaves that
table as it is. -/
structure Stable (step : AliasTable → γ × AliasTable) : Prop where
  resolves : ∀ t, ∃ refs, (step t).2 = t.resolveAll refs
  rerun : ∀ t t', (step t).2.externs <+: t'.externs → step t' = ((step t).1, t')

variable {step : AliasTable → γ × AliasTable}

/-- Run again from the table it left, a stable step gives the same outcome and no new alias. -/
theorem Stable.twice (h : Stable step) (t : AliasTable) : step (step t).2 = step t :=
  h.rerun t _ (List.prefix_refl _)

theorem Stable.externs_grow (h : Stable step) (t : AliasTable) : t.externs <+: (step t).2.externs := by
  obtain ⟨refs, hrefs⟩ := h.resolves t
  rw [hrefs]
  exact AliasTable.externs_prefix_resolveAll t refs

theorem Stable.consistent (h : Stable step) {t : AliasTable} (ht : t.Consistent) :
    (step t).2.Consistent := by
  obtain ⟨refs, hrefs⟩ := h.resolves t
  rw [hrefs]
  exact AliasTable.consistent_resolveAll ht refs

/-- A step whose outcome does not depend on the table, and that leaves it as it is. -/
theorem stable_of_frame (hstep : ∀ t t', step t' = ((step t).1, t')) : Stable step where
  resolves t := ⟨[], congrArg Prod.snd (hstep t t)⟩
  rerun t t' _ := hstep t t'

/-- A step whose outcome is a function of a stable step's, with the table that step left. -/
theorem Stable.map (h : Stable step) (g : γ → δ) {whole : AliasTable → δ × AliasTable}
    (hwhole : ∀ t, whole t = (g (step t).1, (step t).2)) : Stable whole where
  resolves t := by simpa [hwhole] using h.resolves t
  rerun t t' hholds := by
    rw [hwhole] at hholds
    rw [hwhole, hwhole, h.rerun t t' hholds]

/-- A step that runs `first` and, when it gives a value, goes on with `next` of that value from
the table `first` left. -/
theorem Stable.bind {first : AliasTable → Except ε α × AliasTable}
    {next : α → AliasTable → Except ε β × AliasTable} {whole : AliasTable → Except ε β × AliasTable}
    (hfirst : Stable first) (hnext : ∀ a, Stable (next a))
    (hwhole : ∀ t, whole t = match first t with
      | (.ok a, t₁) => next a t₁
      | (.error e, t₁) => (.error e, t₁)) : Stable whole where
  resolves t := by
    obtain ⟨refs₁, h₁⟩ := hfirst.resolves t
    rw [hwhole]
    rcases hf : first t with ⟨e | a, t₁⟩ <;> rw [hf] at h₁ <;> dsimp only at h₁
    · exact ⟨refs₁, h₁⟩
    · obtain ⟨refs₂, h₂⟩ := (hnext a).resolves t₁
      exact ⟨refs₁ ++ refs₂, by rw [h₂, h₁, AliasTable.resolveAll_append]⟩
  rerun t t' hholds := by
    rw [hwhole] at hholds
    rw [hwhole, hwhole]
    rcases hf : first t with ⟨e | a, t₁⟩
    · simp only [hf] at hholds
      simp [hfirst.rerun t t' (by rwa [hf]), hf]
    · simp only [hf] at hholds
      -- what `first` left is a prefix of what `next` left
      have hfirstHolds : (first t).2.externs <+: t'.externs := by
        rw [hf]
        exact ((hnext a).externs_grow t₁).trans hholds
      simp [hfirst.rerun t t' hfirstHolds, hf, (hnext a).rerun t₁ t' hholds]

end Stable

/-! ### Signatures render stably -/

theorem stable_typeRef (sc : Scoper) (scope : Int32) (ns : String) (enclosing : List String)
    (name : String) : Stable (typeRef sc scope ns enclosing name) := by
  by_cases hname : name = ""
  · exact stable_of_frame fun t t' => by simp [typeRef, hname]
  · cases hscope : sc scope with
    | error e => exact stable_of_frame fun t t' => by simp [typeRef, hname, hscope]
    | ok r =>
      obtain ⟨id, isBase⟩ := r
      have hsnd : ∀ t, (typeRef sc scope ns enclosing name t).2 = (t.resolve id isBase).2 := by
        intro t
        rcases hres : t.resolve id isBase with ⟨a, t₁⟩
        simp [typeRef, hname, hscope, hres]
      refine ⟨fun t => ⟨[(id, isBase)], by rw [hsnd]; rfl⟩, fun t t' hholds => ?_⟩
      rw [hsnd] at hholds
      rcases hres : t.resolve id isBase with ⟨a, t₁⟩
      rw [hres] at hholds
      -- the module resolved the first time is held, so it resolves to the same alias
      have hagain := AliasTable.resolve_of_extends hres hholds
      simp [typeRef, hname, hscope, hres, hagain]

mutual

theorem stable_typeText (sc : Scoper) : ∀ sig : Option TypeSig, Stable (typeText sc sig)
  | none => stable_of_frame fun _ _ => rfl
  | some s => stable_sigText sc s

theorem stable_elemText (sc : Scoper) (k : SigKind) (suffix : String) :
    ∀ elem : Option TypeSig, Stable (elemText sc k suffix elem)
  | none => stable_of_frame fun _ _ => rfl
  | some e =>
    (stable_sigText sc e).map (fun x => x.map (· ++ suffix)) fun t => by
      simp only [elemText]
      rcases sigText sc e t with ⟨_ | s, t₁⟩ <;> rfl

theorem stable_sigText (sc : Scoper) : ∀ s : TypeSig, Stable (sigText sc s)
  | ⟨kind, prim, elem, rank, scope, ns, enclosing, name, valueType, args⟩ => by
    -- the element kinds render their element, then a suffix of their own
    have helem : ∀ k suffix, sigText sc ⟨kind, prim, elem, rank, scope, ns, enclosing, name,
        valueType, args⟩ = elemText sc k suffix elem →
        Stable (sigText sc ⟨kind, prim, elem, rank, scope, ns, enclosing, name, valueType, args⟩) :=
      fun k suffix hstep => hstep ▸ stable_elemText sc k suffix elem
    cases hk : SigKind.ofCode kind with
    | byref => exact helem _ _ (sigText_byref hk)
    | array => exact helem _ _ (sigText_array hk)
    | pointer => exact helem _ _ (sigText_pointer hk)
    | primitive => exact stable_of_frame fun t t' => by simp only [sigText, hk]; split <;> rfl
    | invalid => exact stable_of_frame fun t t' => by simp [sigText, hk]
    | named =>
      -- the reference, then the generic arguments when there are any
      have hnext : ∀ ref : String, Stable fun t =>
          if args.isEmpty then ((.ok ((if valueType then "valuetype " else "class ") ++ ref), t) :
            Except Fault String × AliasTable)
          else match argsText sc args t with
            | (.ok parts, t'') => (.ok ((if valueType then "valuetype " else "class ") ++ ref ++
                "<" ++ String.intercalate ", " parts ++ ">"), t'')
            | (.error f, t'') => (.error f, t'') := by
        intro ref
        by_cases hempty : args.isEmpty
        · simp only [hempty, if_true]
          exact stable_of_frame fun _ _ => rfl
        · simp only [hempty, Bool.false_eq_true, if_false]
          exact (stable_argsText sc args).map (fun x => x.map fun parts =>
            (if valueType then "valuetype " else "class ") ++ ref ++ "<" ++
              String.intercalate ", " parts ++ ">") fun t => by
            rcases argsText sc args t with ⟨_ | parts, t₁⟩ <;> rfl
      exact (stable_typeRef sc scope ns enclosing name).bind hnext fun t => by
        simp only [sigText, hk]
        rcases typeRef sc scope ns enclosing name t with ⟨_ | ref, t₁⟩ <;> rfl

theorem stable_argsText (sc : Scoper) : ∀ args : List (Option TypeSig), Stable (argsText sc args)
  | [] => stable_of_frame fun _ _ => rfl
  | a :: rest => by
    -- the first argument, then the others
    have hnext : ∀ s : String, Stable fun t =>
        match argsText sc rest t with
        | (.ok ss, t'') => ((.ok (s :: ss), t'') : Except Fault (List String) × AliasTable)
        | (.error f, t'') => (.error f, t'') := fun s =>
      (stable_argsText sc rest).map (fun x => x.map (s :: ·)) fun t => by
        rcases argsText sc rest t with ⟨_ | ss, t₁⟩ <;> rfl
    exact (stable_typeText sc a).bind hnext fun t => by
      simp only [argsText]
      rcases typeText sc a t with ⟨_ | s, t₁⟩ <;> rfl

end

/-! ### Stubs and programs render stably -/

section Render

variable {α β γ : Type}

theorem stable_pure (a : α) : Stable fun t => (pure a : Render α).run.run t :=
  stable_of_frame fun _ _ => rfl

theorem Stable.renderBind {r : Render α} {f : α → Render β} (hr : Stable fun t => r.run.run t)
    (hf : ∀ a, Stable fun t => (f a).run.run t) : Stable fun t => (r >>= f).run.run t :=
  hr.bind hf fun t => by
    rw [run_bind]
    rcases r.run.run t with ⟨_ | a, t₁⟩ <;> rfl

theorem stable_liftExcept (e : Except Fault α) : Stable fun t => (liftExcept e).run.run t := by
  cases e <;> exact stable_of_frame fun _ _ => rfl

theorem Stable.naming {r : Render α} (hr : Stable fun t => r.run.run t) (c : Candidate)
    (what : String) : Stable fun t => (naming c what r).run.run t :=
  hr.map (Except.mapError (entityFault c what)) fun t => by
    rw [run_naming]
    rcases r.run.run t with ⟨_ | a, t₁⟩ <;> rfl

theorem Stable.mapM {f : γ → Render α} :
    ∀ {xs : List γ}, (∀ x ∈ xs, Stable fun t => (f x).run.run t) →
      Stable fun t => (xs.mapM f).run.run t
  | [], _ => stable_pure []
  | x :: xs, hf => by
    have hrest : Stable fun t => (xs.mapM f).run.run t :=
      Stable.mapM fun y hy => hf y (List.mem_cons_of_mem x hy)
    rw [List.mapM_cons]
    exact (hf x List.mem_cons_self).renderBind fun a => hrest.renderBind fun as => stable_pure (a :: as)

theorem stable_renderType (sc : Scoper) (sig : Option TypeSig) :
    Stable fun t => (renderType sc sig).run.run t :=
  stable_typeText sc sig

theorem stable_boundaryParam (sc : Scoper) (p : Param) :
    Stable fun t => (boundaryParam sc p).run.run t := by
  refine (stable_renderType sc p.type).renderBind fun ty => ?_
  split
  · exact stable_pure _
  · exact (stable_liftExcept _).renderBind fun _ => stable_pure _

theorem stable_renderRef (sc : Scoper) (scope : Int32) (ns : String) (enclosing : List String)
    (name : String) : Stable fun t => (renderRef sc scope ns enclosing name).run.run t :=
  stable_typeRef sc scope ns enclosing name

theorem stable_ownerRef (c : Candidate) : Stable fun t => (ownerRef c).run.run t := by
  unfold ownerRef
  split
  · exact stable_renderRef _ _ _ _ _
  · exact stable_renderRef _ _ _ _ _

theorem stable_callTarget (c : Candidate) : Stable fun t => (callTarget c).run.run t :=
  (stable_renderType _ _).renderBind fun _ =>
    (Stable.mapM fun _ _ => stable_renderType _ _).renderBind fun _ =>
      (stable_ownerRef c).renderBind fun _ => stable_pure _

/-- A stub renders its return value, its parameters and its call target, each stably. -/
theorem stable_stub (ordinal : Nat) (name : String) (c : Candidate) :
    Stable fun t => (stub ordinal name c).run.run t :=
  ((stable_boundaryParam _ _).naming _ _).renderBind fun _ =>
    (Stable.mapM fun _ _ => ((stable_boundaryParam _ _).naming _ _).renderBind fun _ =>
      stable_pure _).renderBind fun _ =>
      ((stable_callTarget c).naming _ _).renderBind fun _ => stable_pure _

theorem stable_stubs (table : OrdinalTable) : Stable fun t => (stubs table).run.run t :=
  (Stable.mapM fun e _ => stable_stub e.ordinal e.name e.candidate).renderBind fun _ =>
    stable_pure _

/-- A program is its stubs' text behind the declarations of the table the stubs left. -/
theorem program_run_eq (table : OrdinalTable) (output : String) (t : AliasTable) :
    (program table output).run.run t = match (stubs table).run.run t with
      | (.ok body, t₁) => (.ok (externDecl t₁.base baseAlias ++
          String.join (t₁.aliases.map fun (a, id) => externDecl id a) ++
          assemblyHeader output ++ body), t₁)
      | (.error e, t₁) => (.error e, t₁) := by
  rw [program, run_bind]
  rcases (stubs table).run.run t with ⟨_ | body, t₁⟩ <;> rfl

/-- A program rendered again from the table it left is the same program, and gives no new
alias. -/
theorem program_twice (table : OrdinalTable) (output : String) (t : AliasTable) :
    (program table output).run.run ((program table output).run.run t).2 =
      (program table output).run.run t := by
  have htwice := (stable_stubs table).twice t
  rw [program_run_eq table output t]
  rcases hs : (stubs table).run.run t with ⟨_ | body, t₁⟩
  · simp only [hs] at htwice
    simp [program_run_eq, htwice]
  · simp only [hs] at htwice
    simp [program_run_eq, htwice]

theorem program_consistent (table : OrdinalTable) (output : String) {t : AliasTable}
    (ht : t.Consistent) : ((program table output).run.run t).2.Consistent := by
  have hstubs := (stable_stubs table).consistent ht
  rw [program_run_eq]
  rcases hs : (stubs table).run.run t with ⟨_ | body, t₁⟩ <;> simpa [hs] using hstubs

end Render

end NativeExports.Assembler

namespace NativeExports

open Assembler

namespace Session

/-- A session's program emitted again, from the alias table the first emission left, is the
same program, and the table stays as it is. -/
theorem emit_twice (s : Session) (output : String) :
    { s with aliases := (s.emit output).2 }.emit output = s.emit output :=
  program_twice s.table output s.aliases

theorem emit_consistent (s : Session) (output : String) (h : s.aliases.Consistent) :
    (s.emit output).2.Consistent :=
  program_consistent s.table output h

end Session

/-- The alias table of a run stays consistent under every sequence of resolutions, those that
rendering makes included, starting from the empty table.  The base library resolves to
`mscorlib` with no new alias.  Once an identity is resolved, every identity with its key
resolves to the same alias after any further resolutions, with no new alias; a resolution adds
an alias exactly when its key is new.  A signature rendered again from the table its rendering
left gives the same text, or fails the same way, and adds no alias; so does a session's program
emitted twice. -/
theorem alias_table_discipline :
    (∀ base : Identity, (AliasTable.empty base).Consistent) ∧
    (∀ (t : AliasTable) (refs : List (Identity × Bool)),
      t.Consistent → (t.resolveAll refs).Consistent) ∧
    (∀ (t : AliasTable) (id : Identity), t.resolve id true = (baseAlias, t)) ∧
    (∀ (t : AliasTable) (id id' : Identity) (refs : List (Identity × Bool)), id.key = id'.key →
      ((t.resolve id false).2.resolveAll refs).resolve id' false =
        ((t.resolve id false).1, (t.resolve id false).2.resolveAll refs)) ∧
    (∀ (t : AliasTable) (id : Identity), (t.resolve id false).2 = t ↔ id.key ∈ t.keys) ∧
    (∀ (sc : Scoper) (sig : TypeSig) (t : AliasTable),
      sigText sc sig (sigText sc sig t).2 = sigText sc sig t ∧
        (t.Consistent → (sigText sc sig t).2.Consistent)) ∧
    (∀ (s : Session) (output : String),
      { s with aliases := (s.emit output).2 }.emit output = s.emit output ∧
        (s.aliases.Consistent → (s.emit output).2.Consistent)) :=
  ⟨AliasTable.consistent_empty,
    fun _ refs ht => AliasTable.consistent_resolveAll ht refs,
    fun _ _ => rfl,
    fun t _ _ refs hkey => AliasTable.resolve_key_stable t hkey refs,
    AliasTable.resolve_eq_self_iff,
    fun sc sig t => ⟨(stable_sigText sc sig).twice t, (stable_sigText sc sig).consistent⟩,
    fun s output => ⟨Session.emit_twice s output, Session.emit_consistent s output⟩⟩

end NativeExports

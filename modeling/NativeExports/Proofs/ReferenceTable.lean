import Mathlib
import NativeExports.Proofs.ReferenceBinding
import NativeExports.Proofs.WorkspaceFrame
/-!
Purpose: what a load binds each reference to, when the search steps are exact.

Binding keeps one table from keys to modules for the whole load.  A module found for a
reference is put in the table under the reference's key and under its own.  When the two keys
are the same, the reference's key was not bound before, so the table only gains a key and no
binding it had changes.  A module whose own key differs can take over a key that the table
already binds, an input's key included, and a later reference with that key is then bound to
the found module.  The law below therefore assumes that the search steps are exact on the
workspace (`ExactSearch`):

* `Grows before after allowed` says that `after` keeps every binding of `before`, and binds each
  key new to it as `allowed` says; here `allowed` is `FoundFor`: the module the search steps
  find for a reference with that key;
* `Binds base known ref r` says that `r` is what the table gives a reference: the base library
  to a reference to it, else the binding of the reference's key;
* `bindReference_grows`, `bindAll_grows` and `loadModules_grow` carry both through one
  reference, one module and all the inputs.

A load that fails stops at an input it cannot read, at an input whose runtime version does
not parse, or at a reference of a module it read that the search steps fail on, do not find,
or find at a file that holds no image (`LoadStops`, `load_stops`).  Two libraries that reference each
other load with one search: the second finds the first already bound
(`cycle_load_binds_each_key_once`).

Main result: `load_binds_each_key_once`.
-/

namespace NativeExports

/-- The search steps are exact on a workspace: a module they find, for a reference that some
image of the workspace holds, carries that reference's key. -/
def ExactSearch (fs : List (Finder (Except Fault))) (w : Workspace) : Prop :=
  ∀ ref ∈ w.referencedIdentities, ∀ src p img, firstFound ref src fs = .ok (some p) →
    w.readImage p = .ok img → img.identity.key = ref.key

/-- A key bound to the module that the search steps find, from some module, for a reference
with that key. -/
def FoundFor (fs : List (Finder (Except Fault))) (w : Workspace) (k : String)
    (r : BoundReference) : Prop :=
  ∃ ref src p img, ref ∈ w.referencedIdentities ∧ ref.key = k ∧
    firstFound ref src fs = .ok (some p) ∧ w.readImage p = .ok img ∧ r = ⟨img.identity, p, false⟩

/-- What a table gives a reference: the base library to a reference to it, else what the
reference's key is bound to. -/
def Binds (base : Identity) (known : Bindings) (ref : Identity) (r : BoundReference) : Prop :=
  if ref.isBase base.name then r = ⟨base, "", true⟩ else known.lookup ref.key = some r

/-- One table grows into another when the other keeps each of its bindings and binds each key
new to it as `allowed` says. -/
structure Grows (before after : Bindings) (allowed : String → BoundReference → Prop) : Prop where
  retains : ∀ k r, before.lookup k = some r → after.lookup k = some r
  introduced : ∀ k r, after.lookup k = some r → before.lookup k = none → allowed k r

namespace Grows

variable {allowed : String → BoundReference → Prop} {a b c : Bindings}

theorem refl (a : Bindings) : Grows a a allowed :=
  ⟨fun _ _ h => h, fun _ _ h hnone => by rw [hnone] at h; cases h⟩

theorem trans (hab : Grows a b allowed) (hbc : Grows b c allowed) : Grows a c allowed := by
  refine ⟨fun k r h => hbc.retains k r (hab.retains k r h), fun k r hc ha => ?_⟩
  cases hb : b.lookup k with
  | none => exact hbc.introduced k r hc hb
  | some r' =>
    -- the key was new to `b` already, with the binding `c` keeps
    have hsame := hbc.retains k r' hb
    rw [hc] at hsame
    cases hsame
    exact hab.introduced k r hb ha

end Grows

/-- A binding a table keeps gives each reference what it gave it. -/
theorem Binds.of_grows {allowed : String → BoundReference → Prop} {base : Identity}
    {known known' : Bindings} {ref : Identity} {r : BoundReference}
    (hg : Grows known known' allowed) (h : Binds base known ref r) : Binds base known' ref r := by
  unfold Binds at h ⊢
  split
  · simpa [*] using h
  · rename_i hb
    rw [if_neg hb] at h
    exact hg.retains _ _ h

/-- Registering a module found for a reference whose key is not bound, when the module carries
that key, grows the table by that key alone. -/
theorem grows_registerFound {allowed : String → BoundReference → Prop} {known : Bindings}
    {ref : Identity} {img : Image} {p : String} (hk : known.lookup ref.key = none)
    (hkey : img.identity.key = ref.key) (hallowed : allowed ref.key ⟨img.identity, p, false⟩) :
    Grows known (registerFound img p ref known) allowed := by
  refine ⟨fun k r h => ?_, fun k r h hnone => ?_⟩
  · have hne : (k == ref.key) = false := by
      rw [beq_eq_false_iff_ne]
      rintro rfl
      rw [hk] at h
      cases h
    simp [registerFound, List.lookup_cons, hkey, hne, h]
  · cases hne : k == ref.key
    · simp [registerFound, List.lookup_cons, hkey, hne, hnone] at h
    · rw [beq_iff_eq] at hne
      subst hne
      simp [registerFound, hkey] at h
      rw [← h]
      exact hallowed

/-- A binding in a table is one of its entries. -/
theorem mem_of_lookup_eq_some {k : String} {r : BoundReference} {known : Bindings}
    (h : known.lookup k = some r) : (k, r) ∈ known := by
  obtain ⟨front, back, rfl, _⟩ := List.lookup_eq_some_iff.1 h
  simp

/-! ### Binding grows the table -/

section Law

variable {fs : List (Finder (Except Fault))} {w : Workspace} {base : Identity}

/-- With exact search steps, binding a reference the workspace holds grows the table by keys
bound to what the search steps find, and binds the reference through the table it ends with. -/
theorem bindReference_grows (hexact : ExactSearch fs w) :
    ∀ {n : Nat} {known : Bindings} {ref : Identity} {src : String} {r : BoundReference}
      {known' : Bindings}, ref ∈ w.referencedIdentities →
      bindReference fs w base n known ref src = .ok (r, known') →
      Grows known known' (FoundFor fs w) ∧ Binds base known' ref r
  | 0, _, _, _, _, _, _, h => by cases h
  | n + 1, known, ref, src, r, known', href, h => by
    cases hb : ref.isBase base.name
    · cases hk : known.lookup ref.key with
      | some r' =>
        rw [bindReference_of_known hb hk] at h
        cases h
        exact ⟨Grows.refl _, by simp [Binds, hb, hk]⟩
      | none =>
        obtain ⟨p, img, hf, hi, rfl, hfold⟩ := bindReference_fresh_eq_ok hb hk h
        have hkey := hexact ref href src p img hf hi
        have hreg : Grows known (registerFound img p ref known) (FoundFor fs w) :=
          grows_registerFound hk hkey ⟨ref, src, p, img, href, rfl, hf, hi, rfl⟩
        -- each reference of the found module grows the table further
        have hdeps := foldlM_except_inv
          (fun k => Grows (registerFound img p ref known) k (FoundFor fs w))
          (fun b dep b' hdep hb hstep => by
            obtain ⟨⟨r'', b''⟩, hrun, hsnd⟩ := except_bind_eq_ok hstep
            cases hsnd
            exact hb.trans (bindReference_grows hexact
              (mem_referencedIdentities_of_readImage hi hdep) hrun).1)
          (Grows.refl _) hfold
        have hbound : (registerFound img p ref known).lookup ref.key =
            some ⟨img.identity, p, false⟩ := by
          simp [registerFound, hkey]
        refine ⟨hreg.trans hdeps, ?_⟩
        simp only [Binds, hb, Bool.false_eq_true, if_false]
        exact hdeps.retains _ _ hbound
    · rw [bindReference_of_base hb] at h
      cases h
      exact ⟨Grows.refl _, by simp [Binds, hb]⟩

/-- One step of binding a module's references: bind the next one and put it after the others. -/
def bindNext (fs : List (Finder (Except Fault))) (w : Workspace) (base : Identity) (fuel : Nat)
    (source : String) : List BoundReference × Bindings → Identity →
      Except Fault (List BoundReference × Bindings)
  | (acc, k), ref => do
    let (r, k) ← bindReference fs w base fuel k ref source
    pure (acc ++ [r], k)

theorem bindAll_eq_foldlM_bindNext {n : Nat} {known : Bindings} {refs : List Identity}
    {src : String} :
    bindAll fs w base n known refs src = refs.foldlM (bindNext fs w base n src) ([], known) := rfl

/-- With exact search steps, binding a module's references in order grows the table, and binds
each reference, in order, through the table it ends with. -/
theorem bindAll_grows (hexact : ExactSearch fs w) {n : Nat} {src : String} :
    ∀ {refs : List Identity} {acc : List BoundReference} {known : Bindings}
      {rs : List BoundReference} {known' : Bindings},
      (∀ ref ∈ refs, ref ∈ w.referencedIdentities) →
      refs.foldlM (bindNext fs w base n src) (acc, known) = .ok (rs, known') →
      Grows known known' (FoundFor fs w) ∧
        ∃ bound, rs = acc ++ bound ∧ List.Forall₂ (Binds base known') refs bound
  | [], acc, known, rs, known', _, h => by
    cases h
    exact ⟨Grows.refl _, [], by simp, List.Forall₂.nil⟩
  | ref :: refs, acc, known, rs, known', hrefs, h => by
    rw [List.foldlM_cons] at h
    obtain ⟨⟨acc₁, k₁⟩, hstep, hrest⟩ := except_bind_eq_ok h
    obtain ⟨⟨r, k⟩, hbind, hacc⟩ := except_bind_eq_ok hstep
    cases hacc
    have ⟨hg₁, hr⟩ := bindReference_grows hexact (hrefs ref List.mem_cons_self) hbind
    obtain ⟨hg₂, bound, rfl, hbound⟩ :=
      bindAll_grows hexact (fun r hr => hrefs r (List.mem_cons_of_mem _ hr)) hrest
    exact ⟨hg₁.trans hg₂, r :: bound, by simp, List.Forall₂.cons (hr.of_grows hg₂) hbound⟩

/-- With exact search steps, loading the modules read, in order, grows the table, and gives one
module for each, in order, with its references bound through the table it ends with. -/
theorem loadModules_grow (hexact : ExactSearch fs w) {n : Nat} :
    ∀ {read : List (String × Image)} {mods : List LoadedModule} {known : Bindings}
      {req : RuntimeVersion} {res : List LoadedModule × Bindings × RuntimeVersion},
      (∀ x ∈ read, w.readImage x.1 = .ok x.2) →
      read.foldlM (loadModule fs w base n) (mods, known, req) = .ok res →
      Grows known res.2.1 (FoundFor fs w) ∧ ∃ loaded, res.1 = mods ++ loaded ∧
        loaded.map (fun m => (m.path, m.image)) = read ∧
        ∀ m ∈ loaded, List.Forall₂ (Binds base res.2.1) m.image.references m.refs
  | [], mods, known, req, res, _, h => by
    cases h
    exact ⟨Grows.refl _, [], by simp, rfl, by simp⟩
  | (p, img) :: read, mods, known, req, res, hread, h => by
    rw [List.foldlM_cons] at h
    obtain ⟨mid, hmod, hrest⟩ := except_bind_eq_ok h
    simp only [loadModule, ofExcept_except] at hmod
    obtain ⟨⟨refs, k₁⟩, hall, hparse⟩ := except_bind_eq_ok hmod
    cases hrt : RuntimeVersion.parse img.runtime with
    | error e => rw [hrt] at hparse; cases hparse
    | ok rt =>
      rw [hrt] at hparse
      cases hparse
      have himg := hread (p, img) List.mem_cons_self
      rw [bindAll_eq_foldlM_bindNext] at hall
      obtain ⟨hg₁, _, hacc, hrefs⟩ :=
        bindAll_grows hexact (fun r hr => mem_referencedIdentities_of_readImage himg hr) hall
      simp only [List.nil_append] at hacc
      subst hacc
      obtain ⟨hg₂, loaded, hres, hpaths, hloaded⟩ :=
        loadModules_grow hexact (fun x hx => hread x (List.mem_cons_of_mem _ hx)) hrest
      refine ⟨hg₁.trans hg₂, ⟨p, img, rt, refs, base⟩ :: loaded, by simp [hres], by simp [hpaths],
        ?_⟩
      intro m hm
      rcases List.mem_cons.1 hm with rfl | hm
      · exact hrefs.imp fun _ _ h => h.of_grows hg₂
      · exact hloaded m hm

end Law

/-! ### The inputs' table -/

/-- The inputs' table lists the inputs read, the last first. -/
theorem inputBindings_eq (read : List (String × Image)) :
    inputBindings read =
      (read.map fun (p, img) => (img.identity.key, BoundReference.mk img.identity p false)).reverse := by
  have hfold : ∀ (acc : Bindings) (rs : List (String × Image)),
      rs.foldl (fun k (p, img) => (img.identity.key, ⟨img.identity, p, false⟩) :: k) acc =
        (rs.map fun (p, img) => (img.identity.key, BoundReference.mk img.identity p false)).reverse
          ++ acc := by
    intro acc rs
    induction rs generalizing acc with
    | nil => rfl
    | cons r rs ih => simp [ih]
  rw [inputBindings, hfold, List.append_nil]

/-- The inputs' table binds a key only to an input read with that key. -/
theorem lookup_inputBindings_eq_some {read : List (String × Image)} {k : String}
    {r : BoundReference} (h : (inputBindings read).lookup k = some r) :
    ∃ x ∈ read, x.2.identity.key = k ∧ r = ⟨x.2.identity, x.1, false⟩ := by
  have hmem := mem_of_lookup_eq_some h
  rw [inputBindings_eq, List.mem_reverse, List.mem_map] at hmem
  obtain ⟨x, hx, hxk⟩ := hmem
  simp only [Prod.mk.injEq] at hxk
  exact ⟨x, hx, hxk.1, hxk.2.symm⟩

/-- A successful read of the inputs gives one module for each input, in order. -/
theorem map_fst_of_readInputs {w : Workspace} :
    ∀ {inputs : List String} {read : List (String × Image)},
      inputs.mapM (readInput w) = .ok read → read.map Prod.fst = inputs
  | [], read, h => by cases h; rfl
  | p :: ps, read, h => by
    obtain ⟨y, ys, hy, hys, rfl⟩ := mapM_cons_eq_ok h
    rw [List.map_cons, (readImage_of_readInput hy).1, map_fst_of_readInputs hys]

/-! ### How a load stops -/

/-- How the search for a reference made by the module at `src` stops a load.  A step fails, or
finds a path that holds no readable image, and the steps before it found nothing; or no step
finds anything.  No step after the one that failed or found is asked. -/
inductive SearchStops (fs : List (Finder (Except Fault))) (w : Workspace) (ref : Identity)
    (src : String) : Fault → Prop
  | failed (before : List (Finder (Except Fault))) (step : Finder (Except Fault))
      (after : List (Finder (Except Fault))) (hsteps : fs = before ++ step :: after)
      (hmiss : ∀ b ∈ before, b ref src = .ok none) (e : Fault) (hfail : step ref src = .error e) :
      SearchStops fs w ref src
        (.wrap Code.unresolvedReference e ("resolving " ++ ref.name ++ " referenced by " ++ src))
  | unreadable (before : List (Finder (Except Fault))) (step : Finder (Except Fault))
      (after : List (Finder (Except Fault))) (hsteps : fs = before ++ step :: after)
      (hmiss : ∀ b ∈ before, b ref src = .ok none) (p : String)
      (hhit : step ref src = .ok (some p)) (e : Fault) (hread : w.readImage p = .error e) :
      SearchStops fs w ref src
        (.wrap Code.unreadableImage e ("reference " ++ ref.name ++ " resolved to unreadable " ++ p))
  | unresolved (hmiss : ∀ b ∈ fs, b ref src = .ok none) :
      SearchStops fs w ref src (.error Code.unresolvedReference ("cannot resolve module " ++
        Text.quote ref.name ++ " (" ++ ref.fullName ++ ") referenced by " ++ src))

/-- How a load stops: an input holds no readable image, or names a runtime version that does not
parse, or the search stops for a reference, not to the base library, that a module of the
workspace makes. -/
inductive LoadStops (w : Workspace) (s : Search) (inputs : List String) : Fault → Prop
  | unreadableInput (p : String) (hp : p ∈ inputs) (e : Fault) (hread : w.readImage p = .error e) :
      LoadStops w s inputs (.wrap Code.unreadableImage e ("cannot load module " ++ p))
  | badRuntime (p : String) (hp : p ∈ inputs) (img : Image) (hread : w.readImage p = .ok img)
      (e : Fault) (hparse : RuntimeVersion.parse img.runtime = .error e) :
      LoadStops w s inputs (.wrap Code.unreadableImage e (p ++ ": bad runtime version"))
  | searchStops (src : String) (img : Image) (hread : w.readImage src = .ok img) (ref : Identity)
      (href : ref ∈ img.references) (hbase : ref.isBase s.base.name = false) (e : Fault)
      (hstops : SearchStops (s.steps w) w ref src e) : LoadStops w s inputs e

section Stops

variable {fs : List (Finder (Except Fault))} {w : Workspace} {base : Identity} {ref : Identity}
  {src : String}

/-- The search answers what its first step that does not answer "nothing" answers, every step
before it having answered "nothing". -/
theorem firstFound_eq_of_ne_none : ∀ {fs : List (Finder (Except Fault))}
    {r : Except Fault (Option String)}, firstFound ref src fs = r → r ≠ .ok none →
      ∃ before step after, fs = before ++ step :: after ∧ (∀ b ∈ before, b ref src = .ok none) ∧
        step ref src = r
  | [], _, h, hr => absurd h.symm hr
  | step :: rest, r, h, hr => by
    simp only [firstFound] at h
    cases hstep : step ref src with
    | error e =>
      rw [hstep, except_error_bind] at h
      exact ⟨[], step, rest, rfl, by simp, hstep.trans h⟩
    | ok found =>
      rw [hstep, except_ok_bind] at h
      cases found with
      | some p => exact ⟨[], step, rest, rfl, by simp, hstep.trans h⟩
      | none =>
        -- a step that answers nothing passes the search on to the rest
        obtain ⟨before, step', after, rfl, hmiss, hans⟩ := firstFound_eq_of_ne_none h hr
        exact ⟨step :: before, step', after, rfl, List.forall_mem_cons.2 ⟨hstep, hmiss⟩, hans⟩

/-- A search that finds nothing asked every step, and each answered nothing. -/
theorem firstFound_eq_none : ∀ {fs : List (Finder (Except Fault))},
    firstFound ref src fs = .ok none → ∀ b ∈ fs, b ref src = .ok none
  | [], _ => by simp
  | step :: rest, h => by
    simp only [firstFound] at h
    cases hstep : step ref src with
    | error e => rw [hstep, except_error_bind] at h; cases h
    | ok found =>
      rw [hstep, except_ok_bind] at h
      cases found with
      | some p => cases h
      | none => exact List.forall_mem_cons.2 ⟨hstep, firstFound_eq_none h⟩

/-- Binding a reference that a module read from the workspace makes stops only where the
search stops for a reference that a module read from the workspace makes, or when it runs out
of fuel. -/
theorem bindReference_eq_error : ∀ {n : Nat} {known : Bindings} {ref : Identity} {src : String}
    {img : Image} {e : Fault}, w.readImage src = .ok img → ref ∈ img.references →
      bindReference fs w base n known ref src = .error e →
      (∃ ref' src', e = chainTooDeep ref' src') ∨
        ∃ src' img' ref', w.readImage src' = .ok img' ∧ ref' ∈ img'.references ∧
          ref'.isBase base.name = false ∧ SearchStops fs w ref' src' e
  | 0, known, ref, src, _, e, _, _, h => by
    simp only [bindReference, throw_except, Except.error.injEq] at h
    exact .inl ⟨ref, src, h.symm⟩
  | n + 1, known, ref, src, img, e, hsrc, href, h => by
    cases hb : ref.isBase base.name
    · cases hk : known.lookup ref.key with
      | some r => rw [bindReference_of_known hb hk] at h; cases h
      | none =>
        -- the search's answer decides how binding goes on
        cases hf : firstFound ref src fs with
        | error e' =>
          rw [bindReference_of_search_error hb hk hf] at h
          cases h
          obtain ⟨before, step, after, hsteps, hmiss, hfail⟩ :=
            firstFound_eq_of_ne_none hf (by simp)
          exact .inr ⟨src, img, ref, hsrc, href, hb,
            .failed before step after hsteps hmiss e' hfail⟩
        | ok found =>
          cases found with
          | none =>
            rw [bindReference_of_not_found hb hk hf] at h
            cases h
            exact .inr ⟨src, img, ref, hsrc, href, hb, .unresolved (firstFound_eq_none hf)⟩
          | some p =>
            obtain ⟨before, step, after, hsteps, hmiss, hhit⟩ :=
              firstFound_eq_of_ne_none hf (by simp)
            cases hi : w.readImage p with
            | error e' =>
              rw [bindReference_of_unreadable hb hk hf hi] at h
              cases h
              exact .inr ⟨src, img, ref, hsrc, href, hb,
                .unreadable before step after hsteps hmiss p hhit e' hi⟩
            | ok img' =>
              -- the fault is that of binding a reference of the module found
              rw [bindReference_of_found hb hk hf hi] at h
              obtain ⟨dep, hdep, k, hk'⟩ := foldlM_except_error (except_map_eq_error h)
              exact bindReference_eq_error hi hdep (except_map_eq_error hk')
    · rw [bindReference_of_base hb] at h
      cases h

/-- Loading one module stops where binding one of its references stops, or at its runtime
version. -/
theorem loadModule_eq_error {n : Nat} {acc : List LoadedModule × Bindings × RuntimeVersion}
    {p : String} {img : Image} {e : Fault} (h : loadModule fs w base n acc (p, img) = .error e) :
    (∃ ref ∈ img.references, ∃ known, bindReference fs w base n known ref p = .error e) ∨
      ∃ e', RuntimeVersion.parse img.runtime = .error e' ∧
        e = .wrap Code.unreadableImage e' (p ++ ": bad runtime version") := by
  obtain ⟨mods, known, req⟩ := acc
  simp only [loadModule, ofExcept_except] at h
  cases hall : bindAll fs w base n known img.references p with
  | error e' =>
    rw [hall, except_error_bind] at h
    cases h
    rw [bindAll_eq_foldlM_bindNext] at hall
    obtain ⟨ref, href, ⟨acc, k⟩, hnext⟩ := foldlM_except_error hall
    refine .inl ⟨ref, href, k, ?_⟩
    simp only [bindNext] at hnext
    cases hbind : bindReference fs w base n k ref p with
    | error e'' =>
      rw [hbind, except_error_bind] at hnext
      cases hnext
      rfl
    | ok r => rw [hbind, except_ok_bind] at hnext; cases hnext
  | ok bound =>
    rw [hall, except_ok_bind] at h
    cases hrt : RuntimeVersion.parse img.runtime with
    | error e' =>
      rw [hrt] at h
      simp only [mapError_except_error, except_error_bind, Except.error.injEq] at h
      exact .inr ⟨e', rfl, h.symm⟩
    | ok rt => rw [hrt] at h; cases h

/-- An input that cannot be read holds no readable image. -/
theorem readInput_eq_error {p : String} {e : Fault} (h : readInput w p = .error e) :
    ∃ e', w.readImage p = .error e' ∧ e = .wrap Code.unreadableImage e' ("cannot load module " ++ p) := by
  unfold readInput at h
  cases hi : w.readImage p with
  | error e' =>
    rw [hi] at h
    simp only [mapError_except_error, except_error_bind, Except.error.injEq] at h
    exact ⟨e', rfl, h.symm⟩
  | ok img => rw [hi] at h; cases h

end Stops

/-- A load stops only in one of the ways of `LoadStops`; it never runs out of fuel. -/
theorem load_stops {w : Workspace} {s : Search} {inputs : List String} {f : Fault}
    (h : load w s inputs = .error f) : LoadStops w s inputs f := by
  have hnever := (loadWith_settled (s.steps w) w s.base inputs).never_out
  have hload := h
  simp only [load, loadWith, ofExcept_except] at hload
  cases hread : inputs.mapM (readInput w) with
  | error e =>
    rw [hread, except_error_bind] at hload
    cases hload
    obtain ⟨p, hp, hpe⟩ := readInputs_error hread
    obtain ⟨e', hi, rfl⟩ := readInput_eq_error hpe
    exact .unreadableInput p hp e' hi
  | ok read =>
    rw [hread, except_ok_bind] at hload
    cases hfold : read.foldlM (loadModule (s.steps w) w s.base w.bindingFuel)
        ([], inputBindings read, RuntimeVersion.zero) with
    | ok res => rw [hfold] at hload; cases hload
    | error e =>
      rw [hfold, except_error_bind] at hload
      cases hload
      -- the module whose loading stopped is an input, read from its path
      obtain ⟨⟨p, img⟩, hx, acc, hstep⟩ := foldlM_except_error hfold
      have himg := readImage_of_mem_read hread _ hx
      have hp : p ∈ inputs := by
        rw [← map_fst_of_readInputs hread]
        exact List.mem_map_of_mem hx
      rcases loadModule_eq_error hstep with ⟨ref, href, known, hbind⟩ | ⟨e', hparse, rfl⟩
      · rcases bindReference_eq_error himg href hbind with ⟨ref', src', rfl⟩ |
          ⟨src', img', ref', hsrc, href', hbase, hstops⟩
        · exact absurd h (hnever ref' src')
        · exact .searchStops src' img' hsrc ref' href' hbase _ hstops
      · exact .badRuntime p hp img himg e' hparse

/-! ### The law of a load -/

/-- With search steps exact on the workspace, a load that succeeds binds the references of all
its modules through one table, fixed for the whole load.  The modules are the inputs, in order,
each with the image read from its path and with one binding for each of its references, in
order: the base library for a reference to it (by name, without regard to case), else what the
table binds the reference's key to.  The table binds the key of each input to an input with that
key (the last such), and any other key to the module that the search steps find, from some
module, for a reference with that key.  A load that fails stops as `LoadStops` says: where the
first search step that does not answer "nothing" fails or finds no readable image, with no later
step asked. -/
theorem load_binds_each_key_once (w : Workspace) (s : Search) (inputs : List String)
    (hexact : ExactSearch (s.steps w) w) :
    (∀ res, load w s inputs = .ok res →
      res.modules.map LoadedModule.path = inputs ∧ ∃ known : Bindings,
        (∀ m ∈ res.modules, w.readImage m.path = .ok m.image ∧
          List.Forall₂ (Binds s.base known) m.image.references m.refs) ∧
        (∀ p ∈ inputs, ∀ img, w.readImage p = .ok img → ∃ q ∈ inputs, ∃ img',
          w.readImage q = .ok img' ∧ img'.identity.key = img.identity.key ∧
          known.lookup img.identity.key = some ⟨img'.identity, q, false⟩) ∧
        (∀ k r, known.lookup k = some r →
          (∀ p ∈ inputs, ∀ img, w.readImage p = .ok img → img.identity.key ≠ k) →
          FoundFor (s.steps w) w k r)) ∧
    ∀ f, load w s inputs = .error f → LoadStops w s inputs f := by
  refine ⟨fun res hload => ?_, fun f h => load_stops h⟩
  simp only [load, loadWith, ofExcept_except] at hload
  obtain ⟨read, hread, hrest⟩ := except_bind_eq_ok hload
  obtain ⟨⟨mods, known, req⟩, hfold, hres⟩ := except_bind_eq_ok hrest
  cases hres
  have himgs := readImage_of_mem_read hread
  obtain ⟨hgrows, loaded, hmods, hpaths, hbinds⟩ := loadModules_grow hexact himgs hfold
  simp only [List.nil_append] at hmods
  subst hmods
  -- every module is the image read for one input, in order
  have hinput : ∀ m ∈ mods, (m.path, m.image) ∈ read := fun m hm => by
    rw [← hpaths]
    exact List.mem_map_of_mem hm
  refine ⟨?_, known, fun m hm => ⟨himgs (m.path, m.image) (hinput m hm), hbinds m hm⟩, ?_, ?_⟩
  · rw [← map_fst_of_readInputs hread, ← hpaths, List.map_map]
    rfl
  · intro p hp img himg
    obtain ⟨r, hr⟩ := Option.isSome_iff_exists.1
      (lookup_inputBindings_isSome (mem_read_of_readImage himg hread hp))
    obtain ⟨x, hx, hxk, rfl⟩ := lookup_inputBindings_eq_some hr
    refine ⟨x.1, ?_, x.2, himgs x hx, hxk, hgrows.retains _ _ hr⟩
    rw [← map_fst_of_readInputs hread]
    exact List.mem_map_of_mem hx
  · intro k r hk hfresh
    -- a key no input has is not in the inputs' table, so the load put it there
    refine hgrows.introduced k r hk ?_
    cases hnone : (inputBindings read).lookup k with
    | none => rfl
    | some r' =>
      obtain ⟨x, hx, hxk, _⟩ := lookup_inputBindings_eq_some hnone
      have hxin : x.1 ∈ inputs := by
        rw [← map_fst_of_readInputs hread]
        exact List.mem_map_of_mem hx
      exact absurd hxk (hfresh x.1 hxin x.2 (himgs x hx))

/-- A reference the system step does not find and the explicit map names is found at the path
the map gives, whatever module makes it: the directory step is not asked. -/
theorem firstFound_explicit {s : Search} {w : Workspace} {ref : Identity} {src p : String}
    (hsys : s.system.find w ref = .ok none)
    (hmap : (s.explicit.find? (·.1 == Text.lower ref.name)).map (·.2) = some p) :
    firstFound ref src (s.steps w) = .ok (some p) := by
  simp only [firstFound, Search.steps, hsys, hmap]
  rfl

/-! ### Two libraries that reference each other -/

/-- `A 1.0.0.0` and `B 1.0.0.0`, neutral and unsigned. -/
def cycleA : Identity := ⟨"A", ⟨1, 0, 0, 0⟩, [], ""⟩

def cycleB : Identity := ⟨"B", ⟨1, 0, 0, 0⟩, [], ""⟩

/-- An image of `self` that references `other`, for no stated runtime. -/
def cycleImage (self other : Identity) : Image := ⟨imageSchema, self, "", [other], [], []⟩

/-- `main.dll` holds `A`, which references `B`; `lib/b-impl.dll` holds `B`, which references
`A` back.  Neither file is named after its module, so only the explicit map finds them. -/
def cycleWorkspace : Workspace :=
  ⟨[("main.dll", .file (cycleImage cycleA cycleB).encode), ("lib", .directory),
    ("lib/b-impl.dll", .file (cycleImage cycleB cycleA).encode)], 0⟩

/-- No cache and no registry; the explicit map names both files. -/
def cycleSearch : Search :=
  ⟨⟨none, []⟩, [("a", "main.dll"), ("b", "lib/b-impl.dll")], Identity.defaultBase⟩

theorem cycle_images_fit : (cycleImage cycleA cycleB).Fits ∧ (cycleImage cycleB cycleA).Fits := by
  simp (disch := decide) [cycleImage, cycleA, cycleB, Image.Fits, Identity.Fits,
    Text.fits_of_ascii]

theorem cycle_reads_main :
    cycleWorkspace.readImage "main.dll" = .ok (cycleImage cycleA cycleB) :=
  Workspace.readImage_of_stores ⟨by with_unfolding_all rfl, by with_unfolding_all rfl⟩
    cycle_images_fit.1

theorem cycle_reads_lib :
    cycleWorkspace.readImage "lib/b-impl.dll" = .ok (cycleImage cycleB cycleA) :=
  Workspace.readImage_of_stores ⟨by with_unfolding_all rfl, by with_unfolding_all rfl⟩
    cycle_images_fit.2

theorem cycle_referencedIdentities : cycleWorkspace.referencedIdentities = [cycleB, cycleA] := by
  have hmain := decode_encode _ cycle_images_fit.1
  have hlib := decode_encode _ cycle_images_fit.2
  simp only [Workspace.referencedIdentities, cycleWorkspace, List.flatMap_cons, List.flatMap_nil,
    hmain, hlib]
  rfl

theorem cycle_finds_A (src : String) :
    firstFound cycleA src (cycleSearch.steps cycleWorkspace) = .ok (some "main.dll") :=
  firstFound_explicit rfl (by decide)

theorem cycle_finds_B (src : String) :
    firstFound cycleB src (cycleSearch.steps cycleWorkspace) = .ok (some "lib/b-impl.dll") :=
  firstFound_explicit rfl (by decide)

theorem cycle_keys : cycleA.key = "a/1.0.0.0//" ∧ cycleB.key = "b/1.0.0.0//" := by
  constructor <;> decide

theorem cycle_exactSearch : ExactSearch (cycleSearch.steps cycleWorkspace) cycleWorkspace := by
  intro ref href src p img hfound hread
  rw [cycle_referencedIdentities, List.mem_pair] at href
  -- the explicit map finds both references, at the files that hold them
  rcases href with rfl | rfl
  · rw [cycle_finds_B] at hfound
    cases hfound
    rw [cycle_reads_lib] at hread
    cases hread
    rfl
  · rw [cycle_finds_A] at hfound
    cases hfound
    rw [cycle_reads_main] at hread
    cases hread
    rfl

/-- `A` loaded from `main.dll`, its reference to `B` bound to `lib/b-impl.dll`. -/
def cycleLoad : LoadResult :=
  ⟨[⟨"main.dll", cycleImage cycleA cycleB, RuntimeVersion.zero,
    [⟨cycleB, "lib/b-impl.dll", false⟩], Identity.defaultBase⟩], RuntimeVersion.zero⟩

/-- Binding `A`'s reference finds `B` through the explicit map, and `B`'s reference back finds
`A` already known as the input, so the cycle ends after one search. -/
theorem cycle_load : load cycleWorkspace cycleSearch ["main.dll"] = .ok cycleLoad := by
  have hfuel : cycleWorkspace.bindingFuel = 3 := by
    rw [Workspace.bindingFuel, cycle_referencedIdentities]
    rfl
  have hAB : (cycleA.key == cycleB.key) = false := by
    rw [cycle_keys.1, cycle_keys.2]
    decide
  have hBA : (cycleB.key == cycleA.key) = false := by
    rw [cycle_keys.1, cycle_keys.2]
    decide
  have hbaseA : cycleA.isBase Identity.defaultBase.name = false := by decide
  have hbaseB : cycleB.isBase Identity.defaultBase.name = false := by decide
  -- binding B's reference back to A finds A known as the input
  have hback : bindFoundRefs (cycleSearch.steps cycleWorkspace) cycleWorkspace
      Identity.defaultBase 2 "lib/b-impl.dll" [cycleA]
      (registerFound (cycleImage cycleB cycleA) "lib/b-impl.dll" cycleB
        [(cycleA.key, ⟨cycleA, "main.dll", false⟩)]) =
      .ok (registerFound (cycleImage cycleB cycleA) "lib/b-impl.dll" cycleB
        [(cycleA.key, ⟨cycleA, "main.dll", false⟩)]) := by
    have hknown : bindReference (cycleSearch.steps cycleWorkspace) cycleWorkspace
        Identity.defaultBase 2 (registerFound (cycleImage cycleB cycleA) "lib/b-impl.dll" cycleB
          [(cycleA.key, ⟨cycleA, "main.dll", false⟩)]) cycleA "lib/b-impl.dll" =
        pure (⟨cycleA, "main.dll", false⟩, registerFound (cycleImage cycleB cycleA)
          "lib/b-impl.dll" cycleB [(cycleA.key, ⟨cycleA, "main.dll", false⟩)]) :=
      bindReference_of_known hbaseA (by simp [registerFound, cycleImage, List.lookup, hAB])
    simp only [bindFoundRefs, List.foldlM_cons, List.foldlM_nil, hknown]
    rfl
  -- binding A's reference to B finds B through the explicit map
  have hbindB : bindReference (cycleSearch.steps cycleWorkspace) cycleWorkspace
      Identity.defaultBase 3 [(cycleA.key, ⟨cycleA, "main.dll", false⟩)] cycleB "main.dll" =
      .ok (⟨cycleB, "lib/b-impl.dll", false⟩, registerFound (cycleImage cycleB cycleA)
        "lib/b-impl.dll" cycleB [(cycleA.key, ⟨cycleA, "main.dll", false⟩)]) := by
    rw [bindReference_of_found hbaseB (by simp [List.lookup, hBA])
      (cycle_finds_B "main.dll") cycle_reads_lib]
    show (Prod.mk _ <$> bindFoundRefs _ _ _ 2 _ [cycleA] _) = _
    rw [hback]
    rfl
  have hparse : RuntimeVersion.parse "" = .ok RuntimeVersion.zero := by
    have htrim : Text.trimBlank "" = "" := by decide
    have hv : "".startsWith "v" = false := by simp +decide
    have hV : "".startsWith "V" = false := by simp +decide
    simp only [RuntimeVersion.parse, htrim, hv, hV, Bool.false_eq_true, if_false]
    rfl
  have hbase : cycleSearch.base = Identity.defaultBase := rfl
  unfold load loadWith
  rw [hfuel]
  simp only [ofExcept_except, List.mapM_cons, List.mapM_nil, readInput, cycle_reads_main,
    mapError_except_ok, except_ok_bind, pure_bind, List.foldlM_cons, List.foldlM_nil,
    inputBindings, List.foldl_cons, List.foldl_nil, loadModule, bindAll, cycleImage, hbase, hbindB,
    hparse]
  rfl

/-- The search steps are exact on the two libraries, the load of `main.dll` succeeds, and the
law gives its modules and the table that binds the reference to `B`. -/
theorem cycle_load_binds_each_key_once :
    ExactSearch (cycleSearch.steps cycleWorkspace) cycleWorkspace ∧
      load cycleWorkspace cycleSearch ["main.dll"] = .ok cycleLoad ∧
      cycleLoad.modules.map LoadedModule.path = ["main.dll"] ∧
      ∃ known : Bindings, ∀ m ∈ cycleLoad.modules,
        cycleWorkspace.readImage m.path = .ok m.image ∧
          List.Forall₂ (Binds cycleSearch.base known) m.image.references m.refs := by
  obtain ⟨hpaths, known, hbinds, -, -⟩ :=
    (load_binds_each_key_once _ _ _ cycle_exactSearch).1 _ cycle_load
  exact ⟨cycle_exactSearch, cycle_load, hpaths, known, hbinds⟩

end NativeExports

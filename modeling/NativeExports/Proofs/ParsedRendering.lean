import Mathlib
import NativeExports.Proofs.AliasResolution
import NativeExports.Signature.Notation
/-!
Purpose: a type read from its notation renders, whatever the text and the table of scopes.

The reader builds only signatures of the shape the renderer takes (`TypeSig.renderable`):
primitives that have a keyword, pointer, array and by-reference types with an element, and
named types with a name and every generic argument present.  Their scopes are the module's own
(0) or one the table of scopes maps a name to (`GivenScope`).  Rendering such a signature fails
only where the scoper fails on one of its scopes, and with the scoper's own fault
(`sigText_fault`): never with a fault of the renderer's for a kind, a primitive, an element or
a name.

The reader is four functions sharing a budget of steps.  `ReadsWellFormed cx fuel` says what
each gives at one budget; one step lemma per function takes it from a budget to the next, and
it holds at every budget (`readsWellFormed`).

Main result: `parsed_type_renders`.
-/

namespace NativeExports

open Assembler

/-! ### Signatures the renderer takes -/

mutual

/-- Whether the renderer takes the signature without a fault of its own: a primitive with a
keyword, a pointer, array or by-reference type with an element, or a named type with a name and
every generic argument present. -/
def TypeSig.renderable : TypeSig → Bool
  | ⟨kind, prim, elem, _, _, _, _, name, _, args⟩ =>
    match SigKind.ofCode kind with
    | .primitive => (Primitive.ofCode? prim).isSome
    | .pointer | .byref | .array => TypeSig.optRenderable elem
    | .named => name != "" && TypeSig.argsRenderable args
    | .invalid => false

/-- Whether an optional signature is present and renderable. -/
def TypeSig.optRenderable : Option TypeSig → Bool
  | none => false
  | some s => s.renderable

/-- Whether every generic argument is present and renderable. -/
def TypeSig.argsRenderable : List (Option TypeSig) → Bool
  | [] => true
  | a :: rest => TypeSig.optRenderable a && TypeSig.argsRenderable rest

end

theorem Primitive.ofCode?_code (p : Primitive) : Primitive.ofCode? p.code = some p := by
  cases p <;> rfl

@[simp] theorem TypeSig.argsRenderable_append (xs ys : List (Option TypeSig)) :
    TypeSig.argsRenderable (xs ++ ys) = (TypeSig.argsRenderable xs && TypeSig.argsRenderable ys) := by
  induction xs with
  | nil => simp [TypeSig.argsRenderable]
  | cons x xs ih => simp [TypeSig.argsRenderable, ih, Bool.and_assoc]

@[simp] theorem TypeSig.argScopes_append (xs ys : List (Option TypeSig)) :
    TypeSig.argScopes (xs ++ ys) = TypeSig.argScopes xs ++ TypeSig.argScopes ys := by
  induction xs with
  | nil => rfl
  | cons x xs ih => simp [ih]

/-! ### Rendering fails only where the scoper does -/

section Faults

variable {sc : Scoper}

theorem typeRef_fault {scope : Int32} {ns name : String} {enclosing : List String} (hname : name ≠ "")
    {t t' : AliasTable} {f : Fault} (h : typeRef sc scope ns enclosing name t = (.error f, t')) :
    sc scope = .error f := by
  cases hsc : sc scope with
  | error e =>
    simp only [typeRef, hname, hsc, if_false, Prod.mk.injEq, Except.error.injEq] at h
    rw [h.1]
  | ok r => simp [typeRef, hname, hsc] at h

mutual

/-- A renderable signature fails to render only with the fault the scoper gives for one of its
scopes. -/
theorem sigText_fault : ∀ (sig : TypeSig) (t : AliasTable) {f : Fault} {t' : AliasTable},
    sig.renderable = true → sigText sc sig t = (.error f, t') → ∃ s ∈ sig.scopes, sc s = .error f
  | ⟨kind, prim, elem, rank, scope, ns, enclosing, name, valueType, args⟩, t, f, t', hr, h => by
    cases hk : SigKind.ofCode kind with
    | invalid => simp [TypeSig.renderable, hk] at hr
    | primitive =>
      obtain ⟨p, hp⟩ : ∃ p, Primitive.ofCode? prim = some p :=
        Option.isSome_iff_exists.1 (by simpa [TypeSig.renderable, hk] using hr)
      simp [sigText, hk, hp] at h
    | pointer | byref | array =>
      -- only the element's text can fail
      obtain ⟨e, rfl⟩ : ∃ e, elem = some e := by
        cases elem with
        | none => simp [TypeSig.renderable, TypeSig.optRenderable, hk] at hr
        | some e => exact ⟨e, rfl⟩
      have her : e.renderable = true := by
        simpa [TypeSig.renderable, TypeSig.optRenderable, hk] using hr
      cases he : sigText sc e t with
      | mk res t₁ =>
        cases res with
        | ok text => simp [sigText, hk, elemText, he] at h
        | error f' =>
          simp only [sigText, hk, elemText, he, Prod.mk.injEq, Except.error.injEq] at h
          obtain ⟨rfl, -⟩ := h
          obtain ⟨s, hs, hf⟩ := sigText_fault e t her he
          exact ⟨s, by simpa [TypeSig.scopes, hk] using hs, hf⟩
    | named =>
      simp only [TypeSig.renderable, hk, Bool.and_eq_true, bne_iff_ne, ne_eq] at hr
      obtain ⟨hname, hargs⟩ := hr
      cases href : typeRef sc scope ns enclosing name t with
      | mk res t₁ =>
        cases res with
        | error f' =>
          -- the scoper failed on the type's own scope
          simp only [sigText, hk, href, Prod.mk.injEq, Except.error.injEq] at h
          obtain ⟨rfl, -⟩ := h
          exact ⟨scope, by simp [TypeSig.scopes, hk], typeRef_fault hname href⟩
        | ok ref =>
          by_cases hempty : args.isEmpty
          · simp [sigText, hk, href, hempty] at h
          · -- a generic argument failed
            cases hparts : argsText sc args t₁ with
            | mk res' t₂ =>
              cases res' with
              | ok parts => simp [sigText, hk, href, hempty, hparts] at h
              | error f' =>
                simp only [sigText, hk, href, hempty, hparts, Bool.false_eq_true, if_false,
                  Prod.mk.injEq, Except.error.injEq] at h
                obtain ⟨rfl, -⟩ := h
                obtain ⟨s, hs, hf⟩ := argsText_fault args t₁ hargs hparts
                exact ⟨s, by simp [TypeSig.scopes, hk, hs], hf⟩

theorem argsText_fault : ∀ (args : List (Option TypeSig)) (t : AliasTable) {f : Fault} {t' : AliasTable},
    TypeSig.argsRenderable args = true → argsText sc args t = (.error f, t') →
      ∃ s ∈ TypeSig.argScopes args, sc s = .error f
  | [], t, f, t', _, h => by simp [argsText] at h
  | none :: _, _, _, _, hr, _ => by simp [TypeSig.argsRenderable, TypeSig.optRenderable] at hr
  | some a :: rest, t, f, t', hr, h => by
    simp only [TypeSig.argsRenderable, TypeSig.optRenderable, Bool.and_eq_true] at hr
    cases ha : sigText sc a t with
    | mk res t₁ =>
      cases res with
      | error f' =>
        simp only [argsText, typeText, ha, Prod.mk.injEq, Except.error.injEq] at h
        obtain ⟨rfl, -⟩ := h
        obtain ⟨s, hs, hf⟩ := sigText_fault a t hr.1 ha
        exact ⟨s, by simp [hs], hf⟩
      | ok text =>
        cases hrest : argsText sc rest t₁ with
        | mk res' t₂ =>
          cases res' with
          | ok parts => simp [argsText, typeText, ha, hrest] at h
          | error f' =>
            simp only [argsText, typeText, ha, hrest, Prod.mk.injEq, Except.error.injEq] at h
            obtain ⟨rfl, -⟩ := h
            obtain ⟨s, hs, hf⟩ := argsText_fault rest t₁ hr.2 hrest
            exact ⟨s, by simp [hs], hf⟩

end

/-- A renderable signature whose scopes all name a module renders from every table. -/
theorem sigText_ok_of_scopes {sig : TypeSig} (hr : sig.renderable = true)
    (hsc : ∀ s ∈ sig.scopes, ∃ r, sc s = .ok r) (t : AliasTable) :
    ∃ text t', sigText sc sig t = (.ok text, t') := by
  cases hrun : sigText sc sig t with
  | mk res t' =>
    cases res with
    | ok text => exact ⟨text, t', rfl⟩
    | error f =>
      obtain ⟨s, hs, hf⟩ := sigText_fault sig t hr hrun
      obtain ⟨r, hok⟩ := hsc s hs
      rw [hok] at hf
      cases hf

end Faults

/-! ### What the reader builds -/

/-- The scopes a reading with this table can give: the module's own, 0, and each one the table
maps a name to. -/
def GivenScope (scopes : List (String × Int32)) (s : Int32) : Prop :=
  s = 0 ∨ s ∈ scopes.map Prod.snd

/-- A signature the renderer takes, naming only scopes `allowed` admits. -/
structure TypeSig.WellFormed (allowed : Int32 → Prop) (sig : TypeSig) : Prop where
  renderable : sig.renderable = true
  scopes : ∀ s ∈ sig.scopes, allowed s

/-- Generic arguments all present and renderable, naming only scopes `allowed` admits. -/
structure TypeSig.ArgsWellFormed (allowed : Int32 → Prop) (args : List (Option TypeSig)) : Prop where
  renderable : TypeSig.argsRenderable args = true
  scopes : ∀ s ∈ TypeSig.argScopes args, allowed s

namespace TypeSig

variable {allowed : Int32 → Prop}

theorem WellFormed.prim (p : Primitive) : (TypeSig.prim p).WellFormed allowed where
  renderable := by
    simp [TypeSig.prim, TypeSig.blank, TypeSig.renderable, SigKind.code, SigKind.ofCode,
      Primitive.ofCode?_code]
  scopes := by simp [TypeSig.prim, TypeSig.blank, TypeSig.scopes, SigKind.code, SigKind.ofCode]

/-- A pointer, array or by-reference type is well formed when its element is. -/
theorem WellFormed.of_elem {sig e : TypeSig}
    (hk : sig.sigKind = .pointer ∨ sig.sigKind = .byref ∨ sig.sigKind = .array)
    (he : sig.elem = some e) (h : e.WellFormed allowed) : sig.WellFormed allowed := by
  obtain ⟨kind, prim, elem, rank, scope, ns, enclosing, name, valueType, args⟩ := sig
  simp only at he
  subst he
  simp only [sigKind] at hk
  constructor
  · rcases hk with hk | hk | hk <;>
      simpa [TypeSig.renderable, TypeSig.optRenderable, hk] using h.renderable
  · rcases hk with hk | hk | hk <;>
      simpa [TypeSig.scopes, hk] using h.scopes

theorem WellFormed.named {scope : Int32} {ns name : String} {enclosing : List String} {vt : Bool}
    {args : List (Option TypeSig)} (hscope : allowed scope) (hname : name ≠ "")
    (hargs : ArgsWellFormed allowed args) :
    { TypeSig.named scope ns name enclosing with valueType := vt, args := args }.WellFormed allowed where
  renderable := by
    simp [TypeSig.named, TypeSig.blank, TypeSig.renderable, SigKind.code, SigKind.ofCode, hname,
      hargs.renderable]
  scopes := by
    simp only [TypeSig.named, TypeSig.blank, TypeSig.scopes, SigKind.code, SigKind.ofCode,
      List.mem_cons]
    rintro s (rfl | hs)
    · exact hscope
    · exact hargs.scopes s hs

theorem ArgsWellFormed.nil : ArgsWellFormed allowed [] := ⟨rfl, by simp⟩

theorem ArgsWellFormed.concat {acc : List (Option TypeSig)} {s : TypeSig}
    (hacc : ArgsWellFormed allowed acc) (hs : s.WellFormed allowed) :
    ArgsWellFormed allowed (acc ++ [some s]) where
  renderable := by
    simp [hacc.renderable, TypeSig.argsRenderable, TypeSig.optRenderable, hs.renderable]
  scopes := by
    simp only [argScopes_append, argScopes, optScopes, List.append_nil, List.mem_append]
    rintro x (hx | hx)
    · exact hacc.scopes x hx
    · exact hs.scopes x hx

end TypeSig

/-- The last part of a chain of name parts none of which is empty is not empty. -/
theorem chain_last_ne {pre own ns name : String} {more enclosing : List String}
    (h : (if ((own :: more).any fun x => decide (x = "")) = true then none
      else some (pre, (own :: more).dropLast, (own :: more).getLast?.getD "")) =
        some (ns, enclosing, name)) : name ≠ "" := by
  split at h
  · cases h
  · rename_i hparts
    simp only [Option.some.injEq, Prod.mk.injEq] at h
    obtain ⟨-, -, rfl⟩ := h
    simp only [List.any_eq_true, decide_eq_true_eq, not_exists, not_and] at hparts
    rw [List.getLast?_eq_some_getLast (List.cons_ne_nil _ _), Option.getD_some]
    exact hparts _ (List.getLast_mem _)

/-- The name a written type name splits into is not empty. -/
theorem splitTypeName_name_ne {full ns name : String} {enclosing : List String}
    (h : splitTypeName full = some (ns, enclosing, name)) : name ≠ "" := by
  unfold splitTypeName at h
  split at h
  · cases h
  · -- whether or not the first part holds a dot, the name is the chain's last part
    dsimp only at h
    split at h <;> exact chain_last_ne h

variable {cx : NotationContext}

/-- Suffixes keep a signature well formed. -/
theorem readSuffixes_wellFormed {allowed : Int32 → Prop} {fuel : Nat} {sig sig' : TypeSig}
    {c c' : Cursor} (hsig : sig.WellFormed allowed) (h : readSuffixes cx fuel sig c = .ok (sig', c')) :
    sig'.WellFormed allowed := by
  induction fuel generalizing sig c with
  | zero => cases h
  | succ fuel ih =>
    rw [readSuffixes] at h
    split at h
    · -- brackets: an array
      dsimp only at h
      split at h
      · exact ih (TypeSig.WellFormed.of_elem (.inr (.inr rfl)) rfl hsig) h
      · cases h
    · exact ih (TypeSig.WellFormed.of_elem (.inl rfl) rfl hsig) h
    · exact ih (TypeSig.WellFormed.of_elem (.inr (.inl rfl)) rfl hsig) h
    · -- no suffix follows
      cases h
      exact hsig

/-- How a type is read at a budget: from its name at the budget below, with a scope written in
brackets that the table maps to, or with the module's own scope; or as a native primitive and
its suffixes. -/
theorem readType_succ_cases {fuel : Nat} {c c' : Cursor} {sig : TypeSig}
    (h : readType cx (fuel + 1) c = .ok (sig, c')) :
    (∃ idx kindGiven valueType c4, idx ∈ cx.scopes.map Prod.snd ∧
        readCore cx fuel idx true kindGiven valueType c4 = .ok (sig, c')) ∨
      (∃ kindGiven valueType c2, readCore cx fuel 0 false kindGiven valueType c2 = .ok (sig, c')) ∨
      (∃ p c4, readSuffixes cx (c4.rest.length + 1) (TypeSig.prim p) c4 = .ok (sig, c')) := by
  rw [readType] at h
  dsimp only at h
  -- the kind words fix whether a kind was written, whether a value type, and the cursor after
  -- them; the three ways leave the same reading of what follows
  split at h
  rotate_left
  split at h
  all_goals
    revert h
    generalize ((_ : Bool), (_ : Bool), (_ : Cursor)) = k
    intro h
    split at h
    · -- a scope in brackets
      split at h
      · cases h
      · split at h
        · cases h
        · rename_i idx hidx
          obtain ⟨front, back, heq, -⟩ := List.lookup_eq_some_iff.1 hidx
          exact .inl ⟨idx, _, _, _, by simp [heq], h⟩
    · split at h
      · -- no kind written: a native primitive, or a name
        split at h
        · split at h
          · cases h
          · exact .inr (.inr ⟨_, _, h⟩)
        · exact .inr (.inl ⟨_, _, _, h⟩)
      · exact .inr (.inl ⟨_, _, _, h⟩)

/-- What each of the reader's functions gives at one budget: well-formed signatures whose
scopes the table gives, provided the scope handed in is one, and well-formed argument lists
from a well-formed start. -/
structure ReadsWellFormed (cx : NotationContext) (fuel : Nat) : Prop where
  type : ∀ {c c' : Cursor} {sig : TypeSig}, readType cx fuel c = .ok (sig, c') →
    sig.WellFormed (GivenScope cx.scopes)
  core : ∀ {scope : Int32} {explicitScope kindGiven valueType : Bool} {c c' : Cursor} {sig : TypeSig},
    GivenScope cx.scopes scope →
      readCore cx fuel scope explicitScope kindGiven valueType c = .ok (sig, c') →
        sig.WellFormed (GivenScope cx.scopes)
  named : ∀ {scope : Int32} {valueType : Bool} {full : String} {c c' : Cursor} {sig : TypeSig},
    GivenScope cx.scopes scope → readNamed cx fuel scope valueType full c = .ok (sig, c') →
      sig.WellFormed (GivenScope cx.scopes)
  arguments : ∀ {acc args : List (Option TypeSig)} {c c' : Cursor},
    TypeSig.ArgsWellFormed (GivenScope cx.scopes) acc →
      readArguments cx fuel acc c = .ok (args, c') → TypeSig.ArgsWellFormed (GivenScope cx.scopes) args

theorem readsWellFormed_zero : ReadsWellFormed cx 0 where
  type h := by cases h
  core _ h := by cases h
  named _ h := by cases h
  arguments _ h := by cases h

section Step

variable {fuel : Nat} (ih : ReadsWellFormed cx fuel)
include ih

theorem readType_step {c c' : Cursor} {sig : TypeSig} (h : readType cx (fuel + 1) c = .ok (sig, c')) :
    sig.WellFormed (GivenScope cx.scopes) := by
  rcases readType_succ_cases h with ⟨idx, _, _, _, hidx, hcore⟩ | ⟨_, _, _, hcore⟩ | ⟨p, _, hsuffixes⟩
  · exact ih.core (.inr hidx) hcore
  · exact ih.core (.inl rfl) hcore
  · exact readSuffixes_wellFormed (TypeSig.WellFormed.prim p) hsuffixes

theorem readCore_step {scope : Int32} {explicitScope kindGiven valueType : Bool} {c c' : Cursor}
    {sig : TypeSig} (hscope : GivenScope cx.scopes scope)
    (h : readCore cx (fuel + 1) scope explicitScope kindGiven valueType c = .ok (sig, c')) :
    sig.WellFormed (GivenScope cx.scopes) := by
  rw [readCore] at h
  dsimp only at h
  split at h
  · -- no name
    cases h
  · split at h
    · -- a primitive's keyword: the primitive itself, or a type of that name
      rename_i p _
      split at h
      · exact readSuffixes_wellFormed (TypeSig.WellFormed.prim p) h
      · exact ih.named hscope h
    · exact ih.named hscope h

theorem readNamed_step {scope : Int32} {valueType : Bool} {full : String} {c c' : Cursor}
    {sig : TypeSig} (hscope : GivenScope cx.scopes scope)
    (h : readNamed cx (fuel + 1) scope valueType full c = .ok (sig, c')) :
    sig.WellFormed (GivenScope cx.scopes) := by
  rw [readNamed] at h
  split at h
  · cases h
  · rename_i ns enclosing name hsplit
    have hname := splitTypeName_name_ne hsplit
    dsimp only at h
    split at h
    · -- generic arguments follow
      split at h
      · cases h
      · rename_i args _ hargs
        exact readSuffixes_wellFormed
          (TypeSig.WellFormed.named hscope hname (ih.arguments TypeSig.ArgsWellFormed.nil hargs)) h
    · exact readSuffixes_wellFormed (TypeSig.WellFormed.named hscope hname TypeSig.ArgsWellFormed.nil) h

theorem readArguments_step {acc args : List (Option TypeSig)} {c c' : Cursor}
    (hacc : TypeSig.ArgsWellFormed (GivenScope cx.scopes) acc)
    (h : readArguments cx (fuel + 1) acc c = .ok (args, c')) :
    TypeSig.ArgsWellFormed (GivenScope cx.scopes) args := by
  rw [readArguments] at h
  split at h
  · cases h
  · rename_i arg _ harg
    have hnext := hacc.concat (ih.type harg)
    dsimp only at h
    split at h
    · -- a comma: more arguments
      exact ih.arguments hnext h
    · -- the closing bracket
      cases h
      exact hnext
    · cases h

theorem readsWellFormed_succ : ReadsWellFormed cx (fuel + 1) where
  type := readType_step ih
  core := readCore_step ih
  named := readNamed_step ih
  arguments := readArguments_step ih

end Step

/-- Whatever the budget, the reader builds well-formed signatures. -/
theorem readsWellFormed (cx : NotationContext) : ∀ fuel, ReadsWellFormed cx fuel
  | 0 => readsWellFormed_zero
  | fuel + 1 => readsWellFormed_succ (readsWellFormed cx fuel)

/-- A signature read from a whole text is well formed, naming only scopes the table gives. -/
theorem parse_wellFormed {src : String} {scopes : List (String × Int32)} {sig : TypeSig}
    (h : TypeSig.parse src scopes = .ok sig) : sig.WellFormed (GivenScope scopes) := by
  rw [TypeSig.parse] at h
  split at h
  · cases h
  · rename_i sig' c hread
    dsimp only at h
    split at h
    · cases h
      exact (readsWellFormed _ _).type hread
    · cases h

/-! ### Read types render -/

/-- A signature read from any text with any table of scopes is one the renderer takes, naming
only the module's own scope and scopes the table gives.  Rendering it fails only with the fault
the scoper gives for one of its scopes, so it renders from every alias table under a scoper that
resolves scope 0 and every scope of the table. -/
theorem parsed_type_renders {src : String} {scopes : List (String × Int32)} {sig : TypeSig}
    (hparse : TypeSig.parse src scopes = .ok sig) :
    sig.WellFormed (GivenScope scopes) ∧
      ∀ (sc : Scoper) (t : AliasTable),
        (∀ f t', typeText sc (some sig) t = (.error f, t') → ∃ s ∈ sig.scopes, sc s = .error f) ∧
        ((∃ r, sc 0 = .ok r) → (∀ idx ∈ scopes.map Prod.snd, ∃ r, sc idx = .ok r) →
          ∃ text t', typeText sc (some sig) t = (.ok text, t')) := by
  have hwf := parse_wellFormed hparse
  refine ⟨hwf, fun sc t => ⟨fun f t' h => sigText_fault sig t hwf.renderable h, fun hzero hmapped => ?_⟩⟩
  apply sigText_ok_of_scopes hwf.renderable _ t
  -- every scope of the signature is 0 or one the table gives
  intro s hs
  rcases hwf.scopes s hs with rfl | hgiven
  · exact hzero
  · exact hmapped s hgiven

/-- A pointer to `Ns.Outer/Inner` of the module the table calls `lib`, with generic arguments
`int32` and `string[]`. -/
def innerPointerSig : TypeSig :=
  TypeSig.pointerTo { TypeSig.named 1 "Ns" "Inner" ["Outer"] with
    args := [some (TypeSig.prim .int32), some (TypeSig.arrayOf (TypeSig.prim .string) 1)] }

/-- `class [Lib]Ns.Outer/Inner<int32, string[]>*` reads as `innerPointerSig`, which renders
under every scoper that resolves scopes 0 and 1. -/
theorem parsed_inner_pointer_renders :
    TypeSig.parse "class [Lib]Ns.Outer/Inner<int32, string[]>*" [("lib", 1)] = .ok innerPointerSig ∧
      innerPointerSig.WellFormed (GivenScope [("lib", 1)]) ∧
      ∀ (sc : Scoper) (t : AliasTable),
        (∀ f t', typeText sc (some innerPointerSig) t = (.error f, t') →
          ∃ s ∈ innerPointerSig.scopes, sc s = .error f) ∧
        ((∃ r, sc 0 = .ok r) → (∀ idx ∈ [("lib", (1 : Int32))].map Prod.snd, ∃ r, sc idx = .ok r) →
          ∃ text t', typeText sc (some innerPointerSig) t = (.ok text, t')) := by
  have hparse : TypeSig.parse "class [Lib]Ns.Outer/Inner<int32, string[]>*" [("lib", 1)] =
      .ok innerPointerSig := rfl
  exact ⟨hparse, parsed_type_renders hparse⟩

end NativeExports

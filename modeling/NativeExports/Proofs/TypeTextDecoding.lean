import Mathlib
import NativeExports.Proofs.WrittenNames
import NativeExports.Proofs.IdentityKey
/-!
Purpose: the assembler text of a type determines the type, up to what the text does not show.

`TypeForm` is a type as its text shows it: a primitive, or a named type (value-type flag, the
module its scope stands for, namespace, enclosing types, name and generic arguments), followed by
its chain of pointer, by-reference and array suffixes.  `TypeSig.view` reads a signature as such
a form: a missing signature reads as `void`, an array of rank below one as an array of rank one,
and a scope as what the scoper resolves it to (`ScopeTarget`), the base library or a module's key.

The text of a form decodes in one way (`TypeForm.text_unique`): the keyword or the kind word
comes first, the alias runs to its closing bracket, the name reads back by `writtenTypeName_unique`,
generic arguments end at a comma or a closing angle bracket, and suffixes start with `*`, `&` or
`[`.  Two signatures written in turn by one writer both render again from the table the second
left, unchanged, and there their texts are the texts of their views with each module's alias
(`typeText_view_stable`); the aliases of the modules a table holds tell the modules apart
(`aliasText_injOn`).

Main result: `typeText_determines_view`.
-/

namespace NativeExports

open Assembler

/-! ### Types as their text shows them -/

/-- What a named type's scope stands for: the base library, or a module known by its key. -/
inductive ScopeTarget where
  | base
  | module (key : String)
  deriving DecidableEq, Repr

/-- What a resolved scope stands for. -/
def ScopeTarget.of (r : Identity × Bool) : ScopeTarget := if r.2 then .base else .module r.1.key

/-- A type as its text shows it: a primitive or a named type, with the suffixes after it,
innermost first.  `σ` is what a named type's scope is taken as. -/
inductive TypeForm (σ : Type) where
  | prim (p : Primitive) (suffixes : List Suffix)
  | named (valueType : Bool) (scope : σ) (ns : String) (enclosing : List String) (name : String)
      (args : List (TypeForm σ)) (suffixes : List Suffix)

namespace TypeForm

variable {σ τ : Type}

/-- The form with one more suffix outside. -/
def addSuffix (w : Suffix) : TypeForm σ → TypeForm σ
  | .prim p ws => .prim p (ws ++ [w])
  | .named vt s ns enclosing name args ws => .named vt s ns enclosing name args (ws ++ [w])

mutual

/-- The form with each scope taken through `g`. -/
def map (g : σ → τ) : TypeForm σ → TypeForm τ
  | .prim p ws => .prim p ws
  | .named vt s ns enclosing name args ws => .named vt (g s) ns enclosing name (mapArgs g args) ws

/-- Generic arguments with each scope taken through `g`. -/
def mapArgs (g : σ → τ) : List (TypeForm σ) → List (TypeForm τ)
  | [] => []
  | f :: fs => f.map g :: mapArgs g fs

end

mutual

/-- The scopes of a form, its own first and then its arguments'. -/
def scopes : TypeForm σ → List σ
  | .prim _ _ => []
  | .named _ s _ _ _ args _ => s :: argScopes args

/-- The scopes of generic arguments, argument by argument. -/
def argScopes : List (TypeForm σ) → List σ
  | [] => []
  | f :: fs => f.scopes ++ argScopes fs

end

mutual

/-- The text of a form, each scope written as `A` gives it: the keyword, or the kind word, the
scope in brackets, the written name and the generic arguments; then the suffixes. -/
def text (A : σ → List Char) : TypeForm σ → List Char
  | .prim p ws => p.keyword.toList ++ suffixesText ws
  | .named vt s ns enclosing name args ws =>
    (kindWord vt).toList ++ '[' :: A s ++ ']' :: (writtenTypeName ns enclosing name).toList ++
      argsText A args ++ suffixesText ws

/-- Generic arguments in angle brackets, after a comma and a blank each but the first; nothing
when there are none. -/
def argsText (A : σ → List Char) : List (TypeForm σ) → List Char
  | [] => []
  | f :: fs => '<' :: f.text A ++ argsTail A fs

/-- The arguments after the first, each after a comma and a blank, and the closing bracket. -/
def argsTail (A : σ → List Char) : List (TypeForm σ) → List Char
  | [] => ['>']
  | f :: fs => ',' :: ' ' :: f.text A ++ argsTail A fs

end

theorem text_addSuffix (A : σ → List Char) (w : Suffix) (f : TypeForm σ) :
    (f.addSuffix w).text A = f.text A ++ w.text := by
  cases f <;> simp [addSuffix, text, suffixesText]

theorem scopes_addSuffix (w : Suffix) (f : TypeForm σ) : (f.addSuffix w).scopes = f.scopes := by
  cases f <;> rfl

end TypeForm

/-! ### Reading a type's text -/

/-- What may follow a primitive's keyword or a named type's core: a suffix, or what may follow a
type. -/
def CoreEnds (r : List Char) : Prop :=
  ∀ x ∈ r.head?, x = '[' ∨ x = '*' ∨ x = '&' ∨ x = ',' ∨ x = '>'

theorem coreEnds_suffixes (ws : List Suffix) {r : List Char} (h : Ends r) :
    CoreEnds (suffixesText ws ++ r) :=
  suffixes_head ws h

theorem Suffix.text_unique {w₁ w₂ : Suffix} {X Y : List Char} (h : w₁.text ++ X = w₂.text ++ Y) :
    w₁ = w₂ ∧ X = Y := by
  cases w₁ with
  | array n =>
    cases w₂ with
    | array m =>
      -- the commas run up to the closing bracket
      simp only [Suffix.text, List.cons_append, List.cons.injEq, true_and, List.append_assoc,
        List.cons_append] at h
      obtain ⟨hcommas, hrest⟩ := append_unique_of_all (p := fun x => x == ',')
        (by simp) (by simp) (by simp) (by simp) h
      exact ⟨by simpa using congrArg List.length hcommas, by simpa using hrest⟩
    | pointer => simp [Suffix.text] at h
    | byref => simp [Suffix.text] at h
  | pointer => cases w₂ <;> simp_all [Suffix.text]
  | byref => cases w₂ <;> simp_all [Suffix.text]

/-- A suffix does not start what may follow a type. -/
theorem Suffix.not_ends (w : Suffix) (X : List Char) : ¬ Ends (w.text ++ X) := by
  cases w <;> simp [Suffix.text, Ends]

/-- A chain of suffixes followed by what may follow a type reads back in one way. -/
theorem suffixesText_unique {ws₁ ws₂ : List Suffix} {r₁ r₂ : List Char} (hr₁ : Ends r₁)
    (hr₂ : Ends r₂) (h : suffixesText ws₁ ++ r₁ = suffixesText ws₂ ++ r₂) : ws₁ = ws₂ ∧ r₁ = r₂ := by
  induction ws₁ generalizing ws₂ with
  | nil =>
    cases ws₂ with
    | nil => exact ⟨rfl, by simpa [suffixesText] using h⟩
    | cons w ws =>
      -- a suffix would start what may follow a type
      simp only [suffixesText, List.flatMap_nil, List.nil_append, List.flatMap_cons,
        List.append_assoc] at h
      rw [h] at hr₁
      exact absurd hr₁ (Suffix.not_ends w _)
  | cons w ws ih =>
    cases ws₂ with
    | nil =>
      simp only [suffixesText, List.flatMap_nil, List.nil_append, List.flatMap_cons,
        List.append_assoc] at h
      rw [← h] at hr₂
      exact absurd hr₂ (Suffix.not_ends w _)
    | cons w' ws' =>
      simp only [suffixesText, List.flatMap_cons, List.append_assoc] at h
      obtain ⟨rfl, hrest⟩ := Suffix.text_unique h
      obtain ⟨rfl, hr⟩ := ih hrest
      exact ⟨rfl, hr⟩

/-- The characters of primitives' keywords: those of identifiers and the blank. -/
def isKeywordChar (c : Char) : Bool := isIdentPart c || c == ' '

theorem keyword_chars (p : Primitive) : p.keyword.toList.all isKeywordChar = true := by
  cases p <;> decide

theorem coreEnds_not_keywordChar {r : List Char} (h : CoreEnds r) :
    ∀ x ∈ r.head?, isKeywordChar x = false := by
  intro x hx
  rcases h x hx with rfl | rfl | rfl | rfl | rfl <;> decide

theorem Primitive.keyword_injective {p q : Primitive} (h : p.keyword = q.keyword) : p = q := by
  have hp := Primitive.ofKeyword?_keyword p
  rw [h, Primitive.ofKeyword?_keyword] at hp
  exact (Option.some.inj hp).symm

/-- A keyword followed by a suffix or by what may follow a type reads back in one way. -/
theorem keyword_unique {p q : Primitive} {r₁ r₂ : List Char} (hr₁ : CoreEnds r₁) (hr₂ : CoreEnds r₂)
    (h : p.keyword.toList ++ r₁ = q.keyword.toList ++ r₂) : p = q ∧ r₁ = r₂ := by
  obtain ⟨hkw, hr⟩ := append_unique_of_all (List.all_eq_true.1 (keyword_chars p))
    (List.all_eq_true.1 (keyword_chars q)) (coreEnds_not_keywordChar hr₁)
    (coreEnds_not_keywordChar hr₂) h
  exact ⟨Primitive.keyword_injective (String.toList_injective hkw), hr⟩

theorem kindWord_head (vt : Bool) : (kindWord vt).toList.head? = some (if vt then 'v' else 'c') := by
  cases vt <;> rfl

theorem kindWord_unique {vt₁ vt₂ : Bool} {X Y : List Char}
    (h : (kindWord vt₁).toList ++ X = (kindWord vt₂).toList ++ Y) : vt₁ = vt₂ ∧ X = Y := by
  have hvt : vt₁ = vt₂ := by
    have hhead := congrArg List.head? h
    rw [List.head?_append, List.head?_append, kindWord_head, kindWord_head] at hhead
    cases vt₁ <;> cases vt₂ <;> simp_all
  subst hvt
  exact ⟨rfl, List.append_cancel_left h⟩

/-- No keyword starts the way a kind word does. -/
theorem keyword_ne_kindWord (p : Primitive) (vt : Bool) (X Y : List Char) :
    p.keyword.toList ++ X ≠ (kindWord vt).toList ++ Y := by
  intro h
  have htake := congrArg (List.take 2) h
  have hp : 2 ≤ p.keyword.toList.length := by cases p <;> decide
  have hk : 2 ≤ (kindWord vt).toList.length := by cases vt <;> decide
  rw [List.take_append_of_le_length hp, List.take_append_of_le_length hk] at htake
  revert htake
  cases p <;> cases vt <;> decide

/-- Two texts that run up to a character missing from both, and go on with it, split there. -/
theorem append_unique_of_not_mem {c : Char} {a b X Y : List Char} (ha : c ∉ a) (hb : c ∉ b)
    (h : a ++ c :: X = b ++ c :: Y) : a = b ∧ X = Y := by
  obtain ⟨hab, hrest⟩ := append_unique_of_all (p := fun x => x != c)
    (fun x hx => bne_iff_ne.2 fun hxc => ha (hxc ▸ hx))
    (fun x hx => bne_iff_ne.2 fun hxc => hb (hxc ▸ hx)) (by simp) (by simp) h
  exact ⟨hab, List.cons.inj hrest |>.2⟩

/-- What may follow a named type's core is no part of its name. -/
theorem typeNameEnds_of_head {r : List Char}
    (h : ∀ x ∈ r.head?, x = '<' ∨ x = '[' ∨ x = '*' ∨ x = '&' ∨ x = ',' ∨ x = '>') :
    TypeNameEnds r := by
  intro x hx
  rcases h x hx with rfl | rfl | rfl | rfl | rfl | rfl <;> decide

theorem argsText_head {σ : Type} (A : σ → List Char) (args : List (TypeForm σ)) {r : List Char} (h : CoreEnds r) :
    ∀ x ∈ (TypeForm.argsText A args ++ r).head?,
      x = '<' ∨ x = '[' ∨ x = '*' ∨ x = '&' ∨ x = ',' ∨ x = '>' := by
  intro x hx
  cases args with
  | nil => exact .inr (h x (by simpa [TypeForm.argsText] using hx))
  | cons f fs =>
    simp [TypeForm.argsText] at hx
    exact .inl hx.symm

theorem ends_argsTail {σ : Type} (A : σ → List Char) (args : List (TypeForm σ)) (r : List Char) :
    Ends (TypeForm.argsTail A args ++ r) := by
  cases args <;> simp [TypeForm.argsTail, Ends]

namespace TypeForm

variable {σ : Type} {A : σ → List Char}

@[simp] theorem map_prim {τ : Type} (g : σ → τ) (p : Primitive) (ws : List Suffix) :
    (TypeForm.prim p ws).map g = .prim p ws := rfl

@[simp] theorem map_named {τ : Type} (g : σ → τ) (vt : Bool) (s : σ) (ns : String)
    (enclosing : List String) (name : String) (args : List (TypeForm σ)) (ws : List Suffix) :
    (TypeForm.named vt s ns enclosing name args ws).map g =
      .named vt (g s) ns enclosing name (mapArgs g args) ws := rfl

mutual

/-- A form's text followed by what may follow a type reads back in one way, up to how scopes
are written. -/
theorem text_unique (hA : ∀ s, ']' ∉ A s) : ∀ (f₁ f₂ : TypeForm σ) {r₁ r₂ : List Char},
    Ends r₁ → Ends r₂ → f₁.text A ++ r₁ = f₂.text A ++ r₂ → f₁.map A = f₂.map A ∧ r₁ = r₂
  | .prim p₁ ws₁, .prim p₂ ws₂, r₁, r₂, hr₁, hr₂, h => by
    simp only [text, List.append_assoc] at h
    obtain ⟨rfl, hrest⟩ := keyword_unique (coreEnds_suffixes ws₁ hr₁) (coreEnds_suffixes ws₂ hr₂) h
    obtain ⟨rfl, hr⟩ := suffixesText_unique hr₁ hr₂ hrest
    exact ⟨rfl, hr⟩
  | .prim p ws, .named vt _ _ _ _ _ _, _, _, _, _, h => by
    simp only [text, List.append_assoc] at h
    exact absurd h (keyword_ne_kindWord p vt _ _)
  | .named vt _ _ _ _ _ _, .prim p ws, _, _, _, _, h => by
    simp only [text, List.append_assoc] at h
    exact absurd h.symm (keyword_ne_kindWord p vt _ _)
  | .named vt₁ s₁ ns₁ enc₁ name₁ args₁ ws₁, .named vt₂ s₂ ns₂ enc₂ name₂ args₂ ws₂, r₁, r₂, hr₁, hr₂,
      h => by
    simp only [text, List.append_assoc, List.cons_append] at h
    -- the kind word, then the scope up to its closing bracket
    obtain ⟨rfl, hscope⟩ := kindWord_unique h
    simp only [List.cons.injEq, true_and] at hscope
    obtain ⟨hs, hname⟩ := append_unique_of_not_mem (hA s₁) (hA s₂) hscope
    -- the name, up to the arguments or the suffixes
    obtain ⟨rfl, rfl, rfl, hargs⟩ := writtenTypeName_unique
      (typeNameEnds_of_head (argsText_head A args₁ (coreEnds_suffixes ws₁ hr₁)))
      (typeNameEnds_of_head (argsText_head A args₂ (coreEnds_suffixes ws₂ hr₂))) hname
    -- the arguments, then the suffixes
    obtain ⟨hsame, hsuffixes⟩ := argsText_unique hA args₁ args₂ (coreEnds_suffixes ws₁ hr₁)
      (coreEnds_suffixes ws₂ hr₂) hargs
    obtain ⟨rfl, hr⟩ := suffixesText_unique hr₁ hr₂ hsuffixes
    exact ⟨by rw [map_named, map_named, hs, hsame], hr⟩

/-- Generic arguments followed by a suffix or by what may follow a type read back in one way. -/
theorem argsText_unique (hA : ∀ s, ']' ∉ A s) : ∀ (as₁ as₂ : List (TypeForm σ)) {r₁ r₂ : List Char},
    CoreEnds r₁ → CoreEnds r₂ → argsText A as₁ ++ r₁ = argsText A as₂ ++ r₂ →
      mapArgs A as₁ = mapArgs A as₂ ∧ r₁ = r₂
  | [], [], _, _, _, _, h => ⟨rfl, h⟩
  | [], f :: fs, r₁, _, hr₁, _, h => by
    -- an opening bracket is nothing that follows a type's core
    simp only [argsText, List.nil_append, List.cons_append] at h
    rcases hr₁ '<' (by simp [h]) with h' | h' | h' | h' | h' <;> cases h'
  | f :: fs, [], _, r₂, _, hr₂, h => by
    simp only [argsText, List.nil_append, List.cons_append] at h
    rcases hr₂ '<' (by simp [← h]) with h' | h' | h' | h' | h' <;> cases h'
  | f₁ :: fs₁, f₂ :: fs₂, r₁, r₂, _, _, h => by
    simp only [argsText, List.cons_append, List.cons.injEq, true_and, List.append_assoc] at h
    obtain ⟨hf, htail⟩ := text_unique hA f₁ f₂ (ends_argsTail A fs₁ r₁) (ends_argsTail A fs₂ r₂) h
    obtain ⟨hfs, hr⟩ := argsTail_unique hA fs₁ fs₂ htail
    exact ⟨by rw [mapArgs, mapArgs, hf, hfs], hr⟩

/-- The arguments after the first, up to the closing bracket, read back in one way. -/
theorem argsTail_unique (hA : ∀ s, ']' ∉ A s) : ∀ (as₁ as₂ : List (TypeForm σ)) {r₁ r₂ : List Char},
    argsTail A as₁ ++ r₁ = argsTail A as₂ ++ r₂ → mapArgs A as₁ = mapArgs A as₂ ∧ r₁ = r₂
  | [], [], _, _, h => by simpa [argsTail] using h
  | [], f :: fs, _, _, h => by simp [argsTail] at h
  | f :: fs, [], _, _, h => by simp [argsTail] at h
  | f₁ :: fs₁, f₂ :: fs₂, r₁, r₂, h => by
    simp only [argsTail, List.cons_append, List.cons.injEq, true_and, List.append_assoc] at h
    obtain ⟨hf, htail⟩ := text_unique hA f₁ f₂ (ends_argsTail A fs₁ r₁) (ends_argsTail A fs₂ r₂) h
    obtain ⟨hfs, hr⟩ := argsTail_unique hA fs₁ fs₂ htail
    exact ⟨by rw [mapArgs, mapArgs, hf, hfs], hr⟩

end

end TypeForm

theorem argsTail_eq_intercalate {σ : Type} (A : σ → List Char) :
    ∀ (f : TypeForm σ) (fs : List (TypeForm σ)),
      f.text A ++ TypeForm.argsTail A fs = (", ".toList).intercalate ((f :: fs).map (TypeForm.text A)) ++ ['>']
  | f, [] => by simp [TypeForm.argsTail]
  | f, g :: gs => by
    have hsep : ", ".toList = [',', ' '] := rfl
    rw [List.map_cons, List.map_cons, List.intercalate_cons_cons, ← List.map_cons]
    simp only [List.append_assoc]
    rw [← argsTail_eq_intercalate A g gs, hsep]
    rfl

/-! ### Signatures as their text shows them -/

mutual

/-- A signature as its text shows it, each scope taken as what the scoper resolves it to; none
where the renderer fails: an invalid kind, a primitive without a keyword, a missing element, a
type without a name or a scope the scoper does not resolve. -/
def TypeSig.view (sc : Scoper) : TypeSig → Option (TypeForm ScopeTarget)
  | ⟨kind, prim, elem, rank, scope, ns, enclosing, name, valueType, args⟩ =>
    match SigKind.ofCode kind with
    | .primitive => (Primitive.ofCode? prim).map fun p => .prim p []
    | .pointer => (TypeSig.elemView sc elem).map (TypeForm.addSuffix .pointer)
    | .byref => (TypeSig.elemView sc elem).map (TypeForm.addSuffix .byref)
    | .array => (TypeSig.elemView sc elem).map (TypeForm.addSuffix (.array (rank.toInt.toNat - 1)))
    | .named =>
      match sc scope, TypeSig.argsView sc args with
      | .ok r, some forms =>
        if name = "" then none else some (.named valueType (ScopeTarget.of r) ns enclosing name forms [])
      | _, _ => none
    | .invalid => none

/-- An element as its text shows it; a missing element shows nothing. -/
def TypeSig.elemView (sc : Scoper) : Option TypeSig → Option (TypeForm ScopeTarget)
  | none => none
  | some e => e.view sc

/-- An optional signature as its text shows it; a missing one is `void`. -/
def TypeSig.optView (sc : Scoper) : Option TypeSig → Option (TypeForm ScopeTarget)
  | none => some (.prim .void [])
  | some s => s.view sc

/-- Generic arguments as their texts show them, a missing one as `void`. -/
def TypeSig.argsView (sc : Scoper) : List (Option TypeSig) → Option (List (TypeForm ScopeTarget))
  | [] => some []
  | a :: rest =>
    match TypeSig.optView sc a, TypeSig.argsView sc rest with
    | some f, some fs => some (f :: fs)
    | _, _ => none

end

/-! ### Aliases -/

/-- The alias a table writes for what a scope stands for: `mscorlib` for the base library, and
for a module the alias of the first position holding its key, or of the next free one. -/
def aliasText (T : AliasTable) : ScopeTarget → List Char
  | .base => baseAlias.toList
  | .module key =>
    (AliasTable.aliasAt ((T.externs.findIdx? fun m => m.key == key).getD T.externs.length)).toList

/-- Whether a table holds what a scope stands for: the base library always, a module when one
of its modules has the key. -/
def ScopeTarget.HeldBy (T : AliasTable) : ScopeTarget → Prop
  | .base => True
  | .module key => ∃ m ∈ T.externs, m.key = key

theorem aliasText_no_bracket (T : AliasTable) (g : ScopeTarget) : ']' ∉ aliasText T g := by
  intro h
  cases g with
  | base => rcases baseAlias_chars _ h with h | h <;> revert h <;> decide
  | module key => rcases aliasAt_chars _ _ h with h | h <;> revert h <;> decide

/-- The alias the writer prints for a scope is the table's alias for what it stands for. -/
theorem toList_aliasOf {sc : Scoper} {T : AliasTable} {scope : Int32} {r : Identity × Bool}
    (h : sc scope = .ok r) : (aliasOf sc T scope).toList = aliasText T (ScopeTarget.of r) := by
  obtain ⟨id, isBase⟩ := r
  cases isBase with
  | true => simp [aliasOf, h, AliasTable.resolve, ScopeTarget.of, aliasText]
  | false =>
    have hpos : T.position? id = T.externs.findIdx? fun m => m.key == id.key := rfl
    cases hfind : T.position? id with
    | some i =>
      rw [hpos] at hfind
      simp [aliasOf, h, AliasTable.resolve, ScopeTarget.of, aliasText, hfind, hpos]
    | none =>
      rw [hpos] at hfind
      simp [aliasOf, h, AliasTable.resolve, ScopeTarget.of, aliasText, hfind, hpos]

theorem heldBy_of_names {T : AliasTable} {r : Identity × Bool} (h : T.Names r) :
    (ScopeTarget.of r).HeldBy T := by
  obtain ⟨id, isBase⟩ := r
  cases isBase with
  | true => trivial
  | false => simpa [AliasTable.Names, ScopeTarget.of, ScopeTarget.HeldBy] using h

/-- A module a table holds is found at a position whose module has its key. -/
theorem findIdx?_of_heldBy {T : AliasTable} {key : String} (h : (ScopeTarget.module key).HeldBy T) :
    ∃ i, T.externs.findIdx? (fun m => m.key == key) = some i ∧ ∃ hi : i < T.externs.length,
      T.externs[i].key = key := by
  obtain ⟨m, hm, hkey⟩ := h
  obtain ⟨i, hi⟩ : ∃ i, T.externs.findIdx? (fun m => m.key == key) = some i :=
    Option.isSome_iff_exists.1 (by simpa [List.findIdx?_isSome] using ⟨m, hm, hkey⟩)
  obtain ⟨hlt, hfound, -⟩ := List.findIdx?_eq_some_iff_getElem.1 hi
  exact ⟨i, hi, hlt, by simpa using hfound⟩

theorem aliasAt_head (i : Nat) : (AliasTable.aliasAt i).toList.head? = some 'a' := by
  simp [AliasTable.aliasAt]

/-- The base library's alias is no module's. -/
theorem baseAlias_ne_aliasAt (i : Nat) : baseAlias.toList ≠ (AliasTable.aliasAt i).toList := by
  intro h
  have hhead := congrArg List.head? h
  rw [aliasAt_head] at hhead
  cases hhead

/-- A table's aliases tell apart what the scopes it holds stand for. -/
theorem aliasText_injOn {T : AliasTable} {g₁ g₂ : ScopeTarget} (h₁ : g₁.HeldBy T) (h₂ : g₂.HeldBy T)
    (h : aliasText T g₁ = aliasText T g₂) : g₁ = g₂ := by
  cases g₁ with
  | base =>
    cases g₂ with
    | base => rfl
    | module key => exact absurd h (baseAlias_ne_aliasAt _)
  | module key₁ =>
    cases g₂ with
    | base => exact absurd h.symm (baseAlias_ne_aliasAt _)
    | module key₂ =>
      -- equal aliases are one position, and a position holds one key
      obtain ⟨i, hi, hlt, hkey₁⟩ := findIdx?_of_heldBy h₁
      obtain ⟨j, hj, hlt₂, hkey₂⟩ := findIdx?_of_heldBy h₂
      simp only [aliasText, hi, hj, Option.getD_some] at h
      obtain rfl : i = j := AliasTable.aliasAt_injective (String.toList_injective h)
      rw [← hkey₁, hkey₂]

namespace TypeForm

variable {σ τ : Type}

mutual

/-- A form is determined by its image under a map that is one to one on its scopes. -/
theorem map_injOn {g : σ → τ} {S : σ → Prop} (hg : ∀ x y, S x → S y → g x = g y → x = y) :
    ∀ (f₁ f₂ : TypeForm σ), (∀ x ∈ f₁.scopes, S x) → (∀ x ∈ f₂.scopes, S x) →
      f₁.map g = f₂.map g → f₁ = f₂
  | .prim p₁ ws₁, .prim p₂ ws₂, _, _, h => by simpa [map] using h
  | .prim _ _, .named _ _ _ _ _ _ _, _, _, h => by simp [map] at h
  | .named _ _ _ _ _ _ _, .prim _ _, _, _, h => by simp [map] at h
  | .named vt₁ s₁ ns₁ enc₁ name₁ args₁ ws₁, .named vt₂ s₂ ns₂ enc₂ name₂ args₂ ws₂, h₁, h₂, h => by
    simp only [map, named.injEq] at h
    obtain ⟨rfl, hs, rfl, rfl, rfl, hargs, rfl⟩ := h
    have hs' : s₁ = s₂ := hg s₁ s₂ (h₁ s₁ (by simp [scopes])) (h₂ s₂ (by simp [scopes])) hs
    have hargs' : args₁ = args₂ := mapArgs_injOn hg args₁ args₂
      (fun x hx => h₁ x (by simp [scopes, hx])) (fun x hx => h₂ x (by simp [scopes, hx])) hargs
    rw [hs', hargs']

theorem mapArgs_injOn {g : σ → τ} {S : σ → Prop} (hg : ∀ x y, S x → S y → g x = g y → x = y) :
    ∀ (as₁ as₂ : List (TypeForm σ)), (∀ x ∈ argScopes as₁, S x) → (∀ x ∈ argScopes as₂, S x) →
      mapArgs g as₁ = mapArgs g as₂ → as₁ = as₂
  | [], [], _, _, _ => rfl
  | [], _ :: _, _, _, h => by simp [mapArgs] at h
  | _ :: _, [], _, _, h => by simp [mapArgs] at h
  | f₁ :: fs₁, f₂ :: fs₂, h₁, h₂, h => by
    simp only [mapArgs, List.cons.injEq] at h
    rw [map_injOn hg f₁ f₂ (fun x hx => h₁ x (by simp [argScopes, hx]))
        (fun x hx => h₂ x (by simp [argScopes, hx])) h.1,
      mapArgs_injOn hg fs₁ fs₂ (fun x hx => h₁ x (by simp [argScopes, hx]))
        (fun x hx => h₂ x (by simp [argScopes, hx])) h.2]

end

end TypeForm

/-! ### Texts rendered from a table that stays as it is -/

section Stable

variable {sc : Scoper} {T : AliasTable}

/-- A view shown as `text` by a rendering from `T`: a form whose text, with the aliases of `T`,
is `text`, and whose scopes `T` holds. -/
def ShowsAs (T : AliasTable) (v : Option (TypeForm ScopeTarget)) (text : String) : Prop :=
  ∃ f, v = some f ∧ text.toList = f.text (aliasText T) ∧ ∀ g ∈ f.scopes, g.HeldBy T

theorem ShowsAs.addSuffix {v : Option (TypeForm ScopeTarget)} {s suffix : String} {w : Suffix}
    (h : ShowsAs T v s) (hw : suffix.toList = w.text) :
    ShowsAs T (v.map (TypeForm.addSuffix w)) (s ++ suffix) := by
  obtain ⟨f, rfl, hs, hheld⟩ := h
  exact ⟨f.addSuffix w, rfl, by simp [hs, hw, TypeForm.text_addSuffix],
    by simpa [TypeForm.scopes_addSuffix] using hheld⟩

/-- A type reference rendered without adding to the table names a scope the table holds. -/
theorem typeRef_stable_heldBy {scope : Int32} {ns name ref : String} {enclosing : List String}
    (h : typeRef sc scope ns enclosing name T = (.ok ref, T)) :
    ∃ r, sc scope = .ok r ∧ (ScopeTarget.of r).HeldBy T := by
  obtain ⟨r, hr, hR⟩ := typeRef_renders h
  obtain ⟨-, hT⟩ := hR.run_inj h
  refine ⟨r, hr, heldBy_of_names ?_⟩
  have hnames := AliasTable.names_resolve T r
  rwa [← AliasTable.resolveAll_nil (T.resolve r.1 r.2).2, ← AliasTable.resolveAll_cons, ← hT]
    at hnames

/-- Generic arguments in angle brackets, as the writer joins their texts. -/
theorem toList_angleArgs {parts : List String} {fs : List (TypeForm ScopeTarget)}
    (hparts : parts.map String.toList = fs.map (TypeForm.text (aliasText T))) (hne : fs ≠ []) :
    ("<" ++ String.intercalate ", " parts ++ ">").toList = TypeForm.argsText (aliasText T) fs := by
  obtain ⟨f, fs, rfl⟩ := List.exists_cons_of_ne_nil hne
  rw [TypeForm.argsText, List.cons_append, argsTail_eq_intercalate, ← hparts]
  simp [String.toList_intercalate]

mutual

/-- A signature rendered without adding to the table shows its view. -/
theorem sigText_view_stable :
    ∀ (sig : TypeSig) {text : String}, sigText sc sig T = (.ok text, T) → ShowsAs T (sig.view sc) text
  | ⟨kind, prim, elem, rank, scope, ns, enclosing, name, valueType, args⟩, text, h => by
    cases hk : SigKind.ofCode kind with
    | invalid => simp [sigText, hk] at h
    | primitive =>
      cases hp : Primitive.ofCode? prim with
      | none => simp [sigText, hk, hp] at h
      | some p =>
        simp only [sigText, hk, hp, Prod.mk.injEq, Except.ok.injEq] at h
        obtain ⟨rfl, -⟩ := h
        exact ⟨.prim p [], by simp [TypeSig.view, hk, hp], by simp [TypeForm.text],
          by simp [TypeForm.scopes]⟩
    | pointer =>
      obtain ⟨e, s, rfl, he, rfl⟩ := elemText_stable (sigText_pointer hk ▸ h)
      simpa [TypeSig.view, hk, TypeSig.elemView] using (sigText_view_stable e he).addSuffix
        (w := .pointer) rfl
    | byref =>
      obtain ⟨e, s, rfl, he, rfl⟩ := elemText_stable (sigText_byref hk ▸ h)
      simpa [TypeSig.view, hk, TypeSig.elemView] using (sigText_view_stable e he).addSuffix
        (w := .byref) rfl
    | array =>
      obtain ⟨e, s, rfl, he, rfl⟩ := elemText_stable (sigText_array hk ▸ h)
      simpa [TypeSig.view, hk, TypeSig.elemView] using (sigText_view_stable e he).addSuffix
        (w := .array (rank.toInt.toNat - 1)) (by simp [rankBrackets, Suffix.text])
    | named =>
      obtain ⟨ref, href, hcases⟩ := sigText_named_stable hk h
      have hname : name ≠ "" := by
        intro hn
        simp [typeRef, hn] at href
      obtain ⟨r, hr, hheld⟩ := typeRef_stable_heldBy href
      -- the reference is the alias in brackets and the written name
      have hreftext : ref.toList = '[' :: aliasText T (ScopeTarget.of r) ++
          ']' :: (writtenTypeName ns enclosing name).toList := by
        rw [typeRef_text href]
        simp [toList_aliasOf hr, writtenTypeName]
      rcases hcases with ⟨rfl, rfl⟩ | ⟨parts, hne, hargs, rfl⟩
      · refine ⟨.named valueType (ScopeTarget.of r) ns enclosing name [] [], ?_, ?_, ?_⟩
        · simp [TypeSig.view, hk, hr, TypeSig.argsView, hname]
        · simp [TypeForm.text, TypeForm.argsText, hreftext]
        · simpa [TypeForm.scopes, TypeForm.argScopes] using hheld
      · obtain ⟨fs, hfs, hparts, hheldArgs⟩ := argsText_view_stable args hargs
        have hfsne : fs ≠ [] := by
          rintro rfl
          obtain ⟨a, rest, rfl⟩ := List.exists_cons_of_ne_nil hne
          simp [TypeSig.argsView] at hfs
          split at hfs <;> simp_all
        refine ⟨.named valueType (ScopeTarget.of r) ns enclosing name fs [], ?_, ?_, ?_⟩
        · simp [TypeSig.view, hk, hr, hfs, hname]
        · simp only [String.toList_append, hreftext, TypeForm.text, suffixesText_nil, List.append_nil]
          rw [← toList_angleArgs hparts hfsne]
          simp
        · intro g hg
          simp only [TypeForm.scopes, List.mem_cons] at hg
          rcases hg with rfl | hg
          · exact hheld
          · exact hheldArgs g hg

/-- An optional signature rendered without adding to the table shows its view. -/
theorem typeText_view_stable :
    ∀ (sig : Option TypeSig) {text : String}, typeText sc sig T = (.ok text, T) →
      ShowsAs T (TypeSig.optView sc sig) text
  | none, text, h => by
    simp only [typeText, Prod.mk.injEq, Except.ok.injEq] at h
    obtain ⟨rfl, -⟩ := h
    exact ⟨.prim .void [], rfl, by simp [TypeForm.text, Primitive.keyword], by simp [TypeForm.scopes]⟩
  | some s, text, h => sigText_view_stable s h

/-- Generic arguments rendered without adding to the table show their views. -/
theorem argsText_view_stable :
    ∀ (args : List (Option TypeSig)) {parts : List String}, argsText sc args T = (.ok parts, T) →
      ∃ fs, TypeSig.argsView sc args = some fs ∧
        parts.map String.toList = fs.map (TypeForm.text (aliasText T)) ∧
        ∀ g ∈ TypeForm.argScopes fs, g.HeldBy T
  | [], parts, h => by
    simp only [argsText, Prod.mk.injEq, Except.ok.injEq] at h
    obtain ⟨rfl, -⟩ := h
    exact ⟨[], rfl, rfl, by simp [TypeForm.argScopes]⟩
  | a :: rest, parts, h => by
    obtain ⟨s, ss, ha, hrest, rfl⟩ := argsText_stable_cons h
    obtain ⟨f, hf, hs, hheld⟩ := typeText_view_stable a ha
    obtain ⟨fs, hfs, hss, hheldRest⟩ := argsText_view_stable rest hrest
    refine ⟨f :: fs, by simp [TypeSig.argsView, hf, hfs], by simp [hs, hss], ?_⟩
    intro g hg
    simp only [TypeForm.argScopes, List.mem_append] at hg
    rcases hg with hg | hg
    · exact hheld g hg
    · exact hheldRest g hg

end

end Stable

/-! ### The text determines the type -/

/-- Two types written in turn by one writer with the same text read alike: the same primitives
and kind words, scopes that stand for the same module, the same names, arguments and suffixes,
up to what the text does not show (a missing type is `void`, an array of rank below one has
rank one, a scope is what it resolves to). -/
theorem typeText_determines_view {sc : Scoper} {s₁ s₂ : Option TypeSig} {t t₁ t₂ : AliasTable}
    {text : String} (h₁ : typeText sc s₁ t = (.ok text, t₁)) (h₂ : typeText sc s₂ t₁ = (.ok text, t₂)) :
    ∃ f, TypeSig.optView sc s₁ = some f ∧ TypeSig.optView sc s₂ = some f := by
  have R₁ := typeText_renders sc s₁ t t₁ text h₁
  have R₂ := typeText_renders sc s₂ t₁ t₂ text h₂
  obtain ⟨-, rfl⟩ := R₁.run_inj h₁
  obtain ⟨-, rfl⟩ := R₂.run_inj h₂
  -- both render again, unchanged, from the table the second rendering left
  obtain ⟨f₁, hv₁, ht₁, hheld₁⟩ :=
    typeText_view_stable s₁ (R₁.rerun_eq _ (AliasTable.externs_prefix_resolveAll _ _))
  obtain ⟨f₂, hv₂, ht₂, hheld₂⟩ := typeText_view_stable s₂ (R₂.rerun_eq _ (List.prefix_refl _))
  -- the text decodes in one way, and that table's aliases tell its modules apart
  obtain ⟨hmap, -⟩ := TypeForm.text_unique (aliasText_no_bracket _) f₁ f₂ Ends.nil Ends.nil
    (by rw [List.append_nil, List.append_nil, ← ht₁, ← ht₂])
  have hsame : f₁ = f₂ :=
    TypeForm.map_injOn (fun _ _ => aliasText_injOn) f₁ f₂ hheld₁ hheld₂ hmap
  exact ⟨f₁, hv₁, by rw [hv₂, hsame]⟩

/-- The scoper that takes every scope to the base library. -/
def baseScoper : Scoper := fun _ => .ok (Identity.defaultBase, true)

/-- An array of rank zero of `Box` with its one generic argument missing. -/
def boxOfMissing : TypeSig :=
  { TypeSig.arrayOf { TypeSig.named 0 "" "Box" [] with args := [none] } 1 with rank := 0 }

/-- An array of rank one of `Box<void>`. -/
def boxOfVoid : TypeSig :=
  TypeSig.arrayOf { TypeSig.named 0 "" "Box" [] with args := [some (TypeSig.prim .void)] } 1

/-- `boxOfMissing` and `boxOfVoid` are different signatures that both write
`class [mscorlib]Box<void>[]`, and they read alike. -/
theorem missing_and_void_arguments_read_alike :
    boxOfMissing ≠ boxOfVoid ∧
      typeText baseScoper (some boxOfMissing) (AliasTable.empty Identity.defaultBase) =
        (.ok "class [mscorlib]Box<void>[]", AliasTable.empty Identity.defaultBase) ∧
      typeText baseScoper (some boxOfVoid) (AliasTable.empty Identity.defaultBase) =
        (.ok "class [mscorlib]Box<void>[]", AliasTable.empty Identity.defaultBase) ∧
      ∃ f, TypeSig.optView baseScoper (some boxOfMissing) = some f ∧
        TypeSig.optView baseScoper (some boxOfVoid) = some f := by
  have h₁ : typeText baseScoper (some boxOfMissing) (AliasTable.empty Identity.defaultBase) =
      (.ok "class [mscorlib]Box<void>[]", AliasTable.empty Identity.defaultBase) := by rfl
  have h₂ : typeText baseScoper (some boxOfVoid) (AliasTable.empty Identity.defaultBase) =
      (.ok "class [mscorlib]Box<void>[]", AliasTable.empty Identity.defaultBase) := by rfl
  -- the two differ in rank
  have hne : boxOfMissing ≠ boxOfVoid := fun h => absurd (congrArg TypeSig.rank h) (by decide)
  exact ⟨hne, h₁, h₂, typeText_determines_view h₁ h₂⟩

end NativeExports

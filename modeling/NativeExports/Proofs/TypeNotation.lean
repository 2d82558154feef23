import Mathlib
import NativeExports.Proofs.AliasResolution
import NativeExports.Proofs.NotationReading
import NativeExports.Module
/-!
Purpose: a type the assembler writer writes reads back, through the reader of module
descriptions, as the type it was.

The writer (`typeText`) and the reader (`TypeSig.parse`) were written apart for one notation.
`TypeSig.writable` says which signatures the writer writes in a form the reader can take in:
primitives that have a keyword, pointer, array and by-reference types with an element, arrays
of rank at least one, generic arguments all present, and named types whose name, enclosing
types and dotted namespace parts are plain identifiers.  The reader keeps of each node only its
kind and the fields that kind uses, and looks each scope up by the alias written for it;
`TypeSig.readBack f` is the signature with just those fields and every named scope `s` mapped
to `f s`.

The proof renders at a table that already names every module of the type: there each part
renders to the same text and leaves the table as it is (`sigText_named_stable`), and the texts
of the parts read as `ReadsAs` and `ArgsReadAs` describe (`sigText_readsAs`).

Main result: `written_type_reads_back`.  A field a kind does not use is not written, so it
does not come back (`named_rank_not_read_back`).
-/

namespace NativeExports

open Assembler Text

/-! ### Signatures the writer writes and what the reader gives back -/

mutual

/-- Whether the writer writes the signature in a form the reader reads back: a primitive with
a keyword, a pointer, array or by-reference type with an element (an array of rank at least
one), and a named type whose name, enclosing types and dotted namespace parts are plain
identifiers and whose generic arguments are all present. -/
def TypeSig.writable : TypeSig → Bool
  | ⟨kind, prim, elem, rank, _, ns, enclosing, name, _, args⟩ =>
    match SigKind.ofCode kind with
    | .primitive => (Primitive.ofCode? prim).isSome
    | .pointer | .byref => TypeSig.optWritable elem
    | .array => decide (1 ≤ rank.toInt) && TypeSig.optWritable elem
    | .named => isPlainIdent name && enclosing.all isPlainIdent &&
        (ns == "" || (Text.splitOnChar '.' ns).all isPlainIdent) && TypeSig.argsWritable args
    | .invalid => false

/-- Whether an optional signature is present and writable. -/
def TypeSig.optWritable : Option TypeSig → Bool
  | none => false
  | some s => s.writable

/-- Whether every generic argument is present and writable. -/
def TypeSig.argsWritable : List (Option TypeSig) → Bool
  | [] => true
  | a :: rest => TypeSig.optWritable a && TypeSig.argsWritable rest

end

mutual

/-- The signature as the reader gives it back: each node's kind with the fields that kind uses
(a primitive's code; an element; an array's rank; a named type's scope mapped by `f`, its
namespace, enclosing types, name, value-type flag and arguments), and every other field zero. -/
def TypeSig.readBack (f : Int32 → Int32) : TypeSig → TypeSig
  | ⟨kind, prim, elem, rank, scope, ns, enclosing, name, valueType, args⟩ =>
    match SigKind.ofCode kind with
    | .primitive => { TypeSig.blank with kind := kind, primitive := prim }
    | .pointer | .byref => { TypeSig.blank with kind := kind, elem := TypeSig.optReadBack f elem }
    | .array => { TypeSig.blank with kind := kind, elem := TypeSig.optReadBack f elem, rank := rank }
    | .named =>
      { TypeSig.blank with
        kind := kind
        scope := f scope
        ns := ns
        enclosing := enclosing
        name := name
        valueType := valueType
        args := TypeSig.argsReadBack f args }
    | .invalid => TypeSig.blank

/-- An optional signature as the reader gives it back. -/
def TypeSig.optReadBack (f : Int32 → Int32) : Option TypeSig → Option TypeSig
  | none => none
  | some s => some (s.readBack f)

/-- Generic arguments as the reader gives them back. -/
def TypeSig.argsReadBack (f : Int32 → Int32) : List (Option TypeSig) → List (Option TypeSig)
  | [] => []
  | a :: rest => TypeSig.optReadBack f a :: TypeSig.argsReadBack f rest

end

example : (TypeSig.named 0 "System.Collections" "List" ["Outer"]).writable = true := by decide

/-- A keyword is written in quotes, so a type named by one is not read back by its name. -/
example : (TypeSig.named 0 "" "int32" []).writable = false := by decide

/-- A code that stands for a kind is that kind's code. -/
theorem SigKind.code_ofCode {code : UInt8} {k : SigKind} (h : SigKind.ofCode code = k)
    (hk : k ≠ .invalid) : k.code = code := by
  unfold SigKind.ofCode at h
  split at h <;> subst h <;> first | rfl | exact absurd rfl hk

/-- A code that stands for a primitive is that primitive's code. -/
theorem Primitive.code_ofCode? {code : UInt8} {p : Primitive} (h : Primitive.ofCode? code = some p) :
    p.code = code := by
  simpa using List.find?_some h

/-! ### The read-back form, kind by kind -/

section ReadBack

variable {f : Int32 → Int32} {kind prim : UInt8} {elem : Option TypeSig} {rank : Int64}
  {scope : Int32} {ns name : String} {enclosing : List String} {valueType : Bool}
  {args : List (Option TypeSig)}

theorem TypeSig.readBack_primitive (hk : SigKind.ofCode kind = .primitive) {p : Primitive}
    (hp : Primitive.ofCode? prim = some p) :
    TypeSig.readBack f ⟨kind, prim, elem, rank, scope, ns, enclosing, name, valueType, args⟩ =
      TypeSig.prim p := by
  simp [TypeSig.readBack, hk, TypeSig.prim, SigKind.code_ofCode hk (by simp),
    Primitive.code_ofCode? hp]

theorem TypeSig.readBack_pointer (hk : SigKind.ofCode kind = .pointer) (e : TypeSig) :
    TypeSig.readBack f ⟨kind, prim, some e, rank, scope, ns, enclosing, name, valueType, args⟩ =
      Suffix.pointer.apply (e.readBack f) := by
  simp [TypeSig.readBack, hk, Suffix.apply, TypeSig.pointerTo, TypeSig.optReadBack,
    SigKind.code_ofCode hk (by simp)]

theorem TypeSig.readBack_byref (hk : SigKind.ofCode kind = .byref) (e : TypeSig) :
    TypeSig.readBack f ⟨kind, prim, some e, rank, scope, ns, enclosing, name, valueType, args⟩ =
      Suffix.byref.apply (e.readBack f) := by
  simp [TypeSig.readBack, hk, Suffix.apply, TypeSig.byRefTo, TypeSig.optReadBack,
    SigKind.code_ofCode hk (by simp)]

/-- A rank of at least one, written as brackets and read back as one more than its commas, is
the rank it was. -/
theorem toInt64_rank {rank : Int64} (h : 1 ≤ rank.toInt) :
    (max (rank.toInt.toNat - 1 + 1) 1).toInt64 = rank := by
  have hmax : max (rank.toInt.toNat - 1 + 1) 1 = rank.toNatClampNeg := by
    simp only [Int64.toNatClampNeg]
    omega
  rw [hmax]
  exact Int64.ofNat_toNatClampNeg rank (by simp [Int64.le_iff_toInt_le]; omega)

/-- An array of rank at least one reads back as the array suffix with one comma fewer than its
rank. -/
theorem TypeSig.readBack_array (hk : SigKind.ofCode kind = .array) (hrank : 1 ≤ rank.toInt)
    (e : TypeSig) :
    TypeSig.readBack f ⟨kind, prim, some e, rank, scope, ns, enclosing, name, valueType, args⟩ =
      (Suffix.array (rank.toInt.toNat - 1)).apply (e.readBack f) := by
  rw [Suffix.apply, TypeSig.arrayOf, toInt64_rank hrank]
  simp [TypeSig.readBack, hk, TypeSig.optReadBack, SigKind.code_ofCode hk (by simp)]

theorem TypeSig.readBack_named (hk : SigKind.ofCode kind = .named) :
    TypeSig.readBack f ⟨kind, prim, elem, rank, scope, ns, enclosing, name, valueType, args⟩ =
      { { TypeSig.named (f scope) ns name enclosing with valueType := valueType } with
        args := TypeSig.argsReadBack f args } := by
  simp [TypeSig.readBack, hk, TypeSig.named, SigKind.code_ofCode hk (by simp)]

end ReadBack

namespace Assembler

/-! ### Written aliases and names -/

/-- The alias the table gives the module a scope names; empty when the scope names nothing. -/
def aliasOf (sc : Scoper) (t : AliasTable) (scope : Int32) : String :=
  match sc scope with
  | .ok (id, isBase) => (t.resolve id isBase).1
  | .error _ => ""

/-- The alias of a position, `asm` and a number, is lower-case letters and digits. -/
theorem aliasAt_chars (i : Nat) : ∀ x ∈ (AliasTable.aliasAt i).toList, x.isLower ∨ x.isDigit := by
  intro x hx
  simp only [AliasTable.aliasAt, String.toList_append, Nat.toString_eq_ofList_toDigits,
    String.toList_ofList, List.mem_append] at hx
  rcases hx with hx | hx
  · exact .inl (List.all_eq_true.1 (by decide) x hx)
  · exact .inr (Nat.isDigit_of_mem_toDigits (by omega) (by omega) hx)

theorem baseAlias_chars : ∀ x ∈ baseAlias.toList, x.isLower ∨ x.isDigit := fun x hx =>
  .inl (List.all_eq_true.1 (by decide) x hx)

/-- Aliases (`mscorlib`, `asm` and a number) are lower-case letters and digits. -/
theorem aliasOf_chars (sc : Scoper) (t : AliasTable) (scope : Int32) :
    ∀ x ∈ (aliasOf sc t scope).toList, x.isLower ∨ x.isDigit := by
  unfold aliasOf AliasTable.resolve
  split
  · split
    · exact baseAlias_chars
    · split
      · exact aliasAt_chars _
      · exact aliasAt_chars _
  · intro x hx
    cases hx

theorem lowerChar_of_lower_or_digit {x : Char} (h : x.isLower ∨ x.isDigit) : lowerChar x = x := by
  have hrange : (97 ≤ x.toNat ∧ x.toNat ≤ 122) ∨ (48 ≤ x.toNat ∧ x.toNat ≤ 57) := by
    simpa [Char.isLower, Char.isDigit, UInt32.le_iff_toNat_le] using h
  have hascii : x.toNat < 0x80 := by omega
  simp only [lowerChar, hascii, if_true, Char.toLower]
  split
  · rename_i hupper
    simp [UInt32.le_iff_toNat_le] at hupper
    omega
  · rfl

theorem isNameChar_of_lower_or_digit {x : Char} (h : x.isLower ∨ x.isDigit) :
    Cursor.isNameChar x = true := by
  have hrange : (97 ≤ x.toNat ∧ x.toNat ≤ 122) ∨ (48 ≤ x.toNat ∧ x.toNat ≤ 57) := by
    simpa [Char.isLower, Char.isDigit, UInt32.le_iff_toNat_le] using h
  apply isNameChar_of_isIdentPart
  rcases hrange with hr | hr <;> simp [isIdentPart, isIdentStart, Char.le_def, UInt32.le_iff_toNat_le, hr]

/-- Lowering an alias, as the reader does before looking it up, leaves it as it is. -/
theorem lower_aliasOf (sc : Scoper) (t : AliasTable) (scope : Int32) :
    lower (aliasOf sc t scope) = aliasOf sc t scope := by
  have hchars := aliasOf_chars sc t scope
  rw [lower, List.map_congr_left (fun x hx => lowerChar_of_lower_or_digit (hchars x hx)), List.map_id',
    String.ofList_toList]

theorem identParts_of_isPlainIdent {s : String} (h : isPlainIdent s = true) :
    s ≠ "" ∧ ∀ x ∈ s.toList, isIdentPart x = true := by
  unfold isPlainIdent at h
  split at h
  · cases h
  · rename_i c rest hs
    simp only [Bool.and_eq_true, Bool.not_eq_true', List.all_eq_true] at h
    refine ⟨fun hempty => by simp [hempty] at hs, fun x hx => ?_⟩
    rw [hs, List.mem_cons] at hx
    rcases hx with rfl | hx
    · simp [isIdentPart, h.1.2]
    · exact h.2 x hx

theorem quoteIdent_of_plain {s : String} (h : isPlainIdent s = true) : quoteIdent s = s := by
  simp [quoteIdent, h]

theorem quoteDotted_of_plain {ns : String} (h : ∀ part ∈ splitOnChar '.' ns, isPlainIdent part = true) :
    quoteDotted ns = ns := by
  unfold quoteDotted
  split
  · next hns => exact hns.symm
  · rw [List.map_congr_left (fun part hpart => quoteIdent_of_plain (h part hpart)), List.map_id']
    exact intercalate_splitOnChar '.' ns

/-- A name of plain identifiers is written without quotes. -/
theorem quotedName_of_plain {ns name : String} {enclosing : List String}
    (hname : isPlainIdent name = true) (henc : ∀ part ∈ enclosing, isPlainIdent part = true)
    (hns : ns = "" ∨ ∀ part ∈ splitOnChar '.' ns, isPlainIdent part = true) :
    (if ns = "" then "" else quoteDotted ns ++ ".") ++
        String.intercalate "/" ((enclosing ++ [name]).map quoteIdent) =
      (if ns = "" then "" else ns ++ ".") ++ String.intercalate "/" (enclosing ++ [name]) := by
  have hparts : (enclosing ++ [name]).map quoteIdent = enclosing ++ [name] := by
    simp [List.map_congr_left (fun part hpart => quoteIdent_of_plain (henc part hpart)),
      quoteIdent_of_plain hname]
  by_cases hempty : ns = ""
  · simp [hempty, hparts]
  · simp [hempty, hparts, quoteDotted_of_plain (hns.resolve_left hempty)]

/-- The name the writer writes for a named type of plain identifiers: its namespace and a dot,
then its enclosing types and name joined by slashes, all read as one name and split back. -/
theorem writtenName_reads {ns name : String} {enclosing : List String}
    (hname : isPlainIdent name = true) (henc : ∀ part ∈ enclosing, isPlainIdent part = true)
    (hns : ns = "" ∨ ∀ part ∈ splitOnChar '.' ns, isPlainIdent part = true) :
    let full := (if ns = "" then "" else ns ++ ".") ++ String.intercalate "/" (enclosing ++ [name])
    full ≠ "" ∧ (∀ x ∈ full.toList, Cursor.isNameChar x = true) ∧
      splitTypeName full = some (ns, enclosing, name) := by
  intro full
  have hparts : ∀ part ∈ enclosing ++ [name], part ≠ "" ∧ ∀ x ∈ part.toList, isIdentPart x = true := by
    intro part hpart
    rcases List.mem_append.1 hpart with hpart | hpart
    · exact identParts_of_isPlainIdent (henc part hpart)
    · rw [List.mem_singleton.1 hpart]
      exact identParts_of_isPlainIdent hname
  -- every character is an identifier character or a separator
  have hnsChars : ∀ x ∈ ns.toList, x = '.' ∨ isIdentPart x = true := by
    rcases hns with rfl | hns
    · simp
    · rw [← intercalate_splitOnChar '.' ns]
      exact forall_mem_intercalate (by simp) fun part hpart x hx =>
        .inr ((identParts_of_isPlainIdent (hns part hpart)).2 x hx)
  have hpathChars : ∀ x ∈ (String.intercalate "/" (enclosing ++ [name])).toList,
      x = '/' ∨ isIdentPart x = true :=
    forall_mem_intercalate (by simp) fun part hpart x hx => .inr ((hparts part hpart).2 x hx)
  have hslash : isIdentPart '/' = false := by decide
  have hdot : isIdentPart '.' = false := by decide
  have hsplit : splitTypeName full = some (ns, enclosing, name) := by
    refine splitTypeName_written (fun h => ?_) fun part hpart => ⟨(hparts part hpart).1, fun h => ?_, fun h => ?_⟩
    · rcases hnsChars '/' h with h | h
      · cases h
      · simp [hslash] at h
    · simp [(hparts part hpart).2 '/' h] at hslash
    · simp [(hparts part hpart).2 '.' h] at hdot
  refine ⟨fun hempty => ?_, fun x hx => ?_, hsplit⟩
  · rw [hempty] at hsplit
    cases hsplit
  · have hdotName : Cursor.isNameChar '.' = true := by decide
    have hslashName : Cursor.isNameChar '/' = true := by decide
    simp only [full, String.toList_append, List.mem_append] at hx
    rcases hx with hx | hx
    · split at hx
      · cases hx
      · simp only [String.toList_append, List.mem_append] at hx
        rcases hx with hx | hx
        · rcases hnsChars x hx with rfl | hx
          · exact hdotName
          · exact isNameChar_of_isIdentPart hx
        · simp at hx
          exact hx ▸ hdotName
    · rcases hpathChars x hx with rfl | hx
      · exact hslashName
      · exact isNameChar_of_isIdentPart hx

/-- A reference, once rendered, is the scope's alias in brackets and the written name. -/
theorem typeRef_text {sc : Scoper} {scope : Int32} {ns name ref : String} {enclosing : List String}
    {t t' : AliasTable} (h : typeRef sc scope ns enclosing name t = (.ok ref, t')) :
    ref = "[" ++ aliasOf sc t scope ++ "]" ++ ((if ns = "" then "" else quoteDotted ns ++ ".") ++
      String.intercalate "/" ((enclosing ++ [name]).map quoteIdent)) := by
  obtain ⟨hname, id, isBase, hscope⟩ := typeRef_eq_ok h
  rw [typeRef_of_scope hname hscope, Prod.mk.injEq, Except.ok.injEq] at h
  rw [← h.1, aliasOf, hscope, String.append_assoc]

/-! ### Rendering at a table that names every module already -/

section Stable

variable {sc : Scoper} {T : AliasTable}

/-- Two steps run one after the other that come back to the table they started from each
leave it as it is. -/
theorem Renders.parts_of_return {first : AliasTable → Except Fault α × AliasTable}
    {next : AliasTable → Except Fault β × AliasTable} {a : α} {b : β}
    (hfirst : Renders first T refs₁ a) (hnext : Renders next (T.resolveAll refs₁) refs₂ b)
    (hback : (T.resolveAll refs₁).resolveAll refs₂ = T) :
    first T = (.ok a, T) ∧ next T = (.ok b, T) := by
  constructor
  · apply hfirst.rerun_eq
    -- what the first step left is a prefix of what both left
    have hprefix := AliasTable.externs_prefix_resolveAll (T.resolveAll refs₁) refs₂
    rwa [hback] at hprefix
  · exact hnext.rerun_eq T (by simp [hback])

/-- At such a table an element type renders there too, before its suffix. -/
theorem elemText_stable {k : SigKind} {suffix text : String} {elem : Option TypeSig}
    (h : elemText sc k suffix elem T = (.ok text, T)) :
    ∃ e s, elem = some e ∧ sigText sc e T = (.ok s, T) ∧ text = s ++ suffix := by
  cases elem with
  | none => simp [elemText] at h
  | some e =>
    rcases he : sigText sc e T with ⟨_ | s, t₁⟩
    · simp [elemText, he] at h
    · simp only [elemText, he, Prod.mk.injEq, Except.ok.injEq] at h
      obtain ⟨rfl, rfl⟩ := h
      exact ⟨e, s, rfl, he, rfl⟩

/-- At such a table the first argument and the others each render there. -/
theorem argsText_stable_cons {a : Option TypeSig} {rest : List (Option TypeSig)} {parts : List String}
    (h : argsText sc (a :: rest) T = (.ok parts, T)) :
    ∃ s ss, typeText sc a T = (.ok s, T) ∧ argsText sc rest T = (.ok ss, T) ∧ parts = s :: ss := by
  rcases ha : typeText sc a T with ⟨_ | s, t₁⟩
  · simp [argsText, ha] at h
  rcases hrest : argsText sc rest t₁ with ⟨_ | ss, t₂⟩
  · simp [argsText, ha, hrest] at h
  simp only [argsText, ha, hrest, Prod.mk.injEq, Except.ok.injEq] at h
  obtain ⟨rfl, hT⟩ := h
  rw [hT] at hrest
  have hfirst := typeText_renders sc a T t₁ s ha
  obtain ⟨-, rfl⟩ := hfirst.run_inj ha
  have hrestR := argsText_renders sc rest _ _ ss hrest
  obtain ⟨-, hback⟩ := hrestR.run_inj hrest
  obtain ⟨ha', hrest'⟩ := Renders.parts_of_return hfirst hrestR hback.symm
  exact ⟨s, ss, hfirst.run_eq.symm.trans ha', hrest', rfl⟩

/-- At such a table a named type's reference and its arguments each render there. -/
theorem sigText_named_stable {kind prim : UInt8} {elem : Option TypeSig} {rank : Int64} {scope : Int32}
    {ns name text : String} {enclosing : List String} {valueType : Bool} {args : List (Option TypeSig)}
    (hk : SigKind.ofCode kind = .named)
    (h : sigText sc ⟨kind, prim, elem, rank, scope, ns, enclosing, name, valueType, args⟩ T = (.ok text, T)) :
    ∃ ref, typeRef sc scope ns enclosing name T = (.ok ref, T) ∧
      ((args = [] ∧ text = kindWord valueType ++ ref) ∨
        ∃ parts, args ≠ [] ∧ argsText sc args T = (.ok parts, T) ∧
          text = kindWord valueType ++ ref ++ "<" ++ String.intercalate ", " parts ++ ">") := by
  obtain ⟨ref, t₁, href, hcase⟩ := sigText_named_eq_ok hk h
  obtain ⟨r, -, hrefR⟩ := typeRef_renders href
  obtain ⟨-, rfl⟩ := hrefR.run_inj href
  rcases hcase with ⟨rfl, rfl, hT⟩ | ⟨parts, hne, hargs, rfl⟩
  · -- without arguments the reference's table is the final one
    exact ⟨ref, by rw [href, ← hT], .inl ⟨rfl, rfl⟩⟩
  · have hargsR := argsText_renders sc args _ _ parts hargs
    obtain ⟨-, hback⟩ := hargsR.run_inj hargs
    obtain ⟨href', hargs'⟩ := Renders.parts_of_return hrefR hargsR hback.symm
    exact ⟨ref, href', .inr ⟨parts, hne, hargs', rfl⟩⟩

end Stable

/-! ### Writable signatures render -/

section Success

variable {sc : Scoper}

theorem typeRef_succeeds {scope : Int32} {ns name : String} {enclosing : List String}
    (hname : name ≠ "") {r : Identity × Bool} (hscope : sc scope = .ok r) (t : AliasTable) :
    ∃ ref t', typeRef sc scope ns enclosing name t = (.ok ref, t') := by
  obtain ⟨id, isBase⟩ := r
  exact ⟨_, _, typeRef_of_scope hname hscope t⟩

mutual

/-- A writable signature whose scopes all name a module renders from every table. -/
theorem sigText_succeeds : ∀ (sig : TypeSig) (t : AliasTable), sig.writable = true →
    (∀ s ∈ sig.scopes, ∃ r, sc s = .ok r) → ∃ text t', sigText sc sig t = (.ok text, t')
  | ⟨kind, prim, elem, rank, scope, ns, enclosing, name, valueType, args⟩, t, hw, hsc => by
    cases hk : SigKind.ofCode kind with
    | invalid => simp [TypeSig.writable, hk] at hw
    | primitive =>
      obtain ⟨p, hp⟩ : ∃ p, Primitive.ofCode? prim = some p :=
        Option.isSome_iff_exists.1 (by simpa [TypeSig.writable, hk] using hw)
      exact ⟨p.keyword, t, by simp [sigText, hk, hp]⟩
    | pointer | byref | array =>
      -- the element is present and writable, and its text takes the suffix
      obtain ⟨e, rfl⟩ : ∃ e, elem = some e := by
        cases elem with
        | none => simp [TypeSig.writable, TypeSig.optWritable, hk] at hw
        | some e => exact ⟨e, rfl⟩
      obtain ⟨s, t', he⟩ := sigText_succeeds e t
        (by simp [TypeSig.writable, TypeSig.optWritable, hk] at hw; simp [hw])
        (by simpa [TypeSig.scopes, hk] using hsc)
      exact ⟨_, t', by
        simp [sigText, hk, elemText, he]
        rfl⟩
    | named =>
      simp only [TypeSig.writable, hk, Bool.and_eq_true] at hw
      simp only [TypeSig.scopes, hk, List.mem_cons] at hsc
      obtain ⟨r, hr⟩ := hsc scope (.inl rfl)
      obtain ⟨ref, t₁, href⟩ : ∃ ref t₁, typeRef sc scope ns enclosing name t = (.ok ref, t₁) :=
        typeRef_succeeds (identParts_of_isPlainIdent hw.1.1.1).1 hr t
      by_cases hempty : args.isEmpty
      · exact ⟨_, t₁, by
          simp [sigText, hk, href, hempty]
          rfl⟩
      · obtain ⟨parts, t₂, hargs⟩ := argsText_succeeds args t₁ hw.2 fun s hs => hsc s (.inr hs)
        exact ⟨_, t₂, by
          simp [sigText, hk, href, hempty, hargs]
          rfl⟩

theorem argsText_succeeds : ∀ (args : List (Option TypeSig)) (t : AliasTable),
    TypeSig.argsWritable args = true → (∀ s ∈ TypeSig.argScopes args, ∃ r, sc s = .ok r) →
    ∃ parts t', argsText sc args t = (.ok parts, t')
  | [], t, _, _ => ⟨[], t, rfl⟩
  | none :: _, _, hw, _ => by simp [TypeSig.argsWritable, TypeSig.optWritable] at hw
  | some a :: rest, t, hw, hsc => by
    simp only [TypeSig.argsWritable, TypeSig.optWritable, Bool.and_eq_true] at hw
    simp only [TypeSig.argScopes, TypeSig.optScopes, List.mem_append] at hsc
    obtain ⟨s, t₁, ha⟩ := sigText_succeeds a t hw.1 fun x hx => hsc x (.inl hx)
    obtain ⟨ss, t₂, hrest⟩ := argsText_succeeds rest t₁ hw.2 fun x hx => hsc x (.inr hx)
    exact ⟨s :: ss, t₂, by simp [argsText, typeText, ha, hrest]⟩

end

end Success

/-! ### Reading back -/

section RoundTrip

variable {sc : Scoper} {T : AliasTable} {cx : NotationContext} {f : Int32 → Int32}

mutual

/-- At a table that names its modules already, a writable signature's text reads as its
read-back form, when the reader's scopes map each scope's alias to the scope's image. -/
theorem sigText_readsAs : ∀ (sig : TypeSig) (text : String), sig.writable = true →
    (∀ s ∈ sig.scopes, cx.scopes.lookup (aliasOf sc T s) = some (f s)) →
    sigText sc sig T = (.ok text, T) → ReadsAs cx text (sig.readBack f)
  | ⟨kind, prim, elem, rank, scope, ns, enclosing, name, valueType, args⟩, text, hw, hA, h => by
    cases hk : SigKind.ofCode kind with
    | invalid => simp [TypeSig.writable, hk] at hw
    | primitive =>
      obtain ⟨p, hp⟩ : ∃ p, Primitive.ofCode? prim = some p :=
        Option.isSome_iff_exists.1 (by simpa [TypeSig.writable, hk] using hw)
      simp only [sigText, hk, hp, Prod.mk.injEq, Except.ok.injEq] at h
      obtain ⟨rfl, -⟩ := h
      rw [TypeSig.readBack_primitive hk hp]
      exact readsAs_primitive p
    | pointer =>
      obtain ⟨e, s, rfl, he, rfl⟩ := elemText_stable (sigText_pointer hk ▸ h)
      rw [TypeSig.readBack_pointer hk]
      exact (sigText_readsAs e s (by simpa [TypeSig.writable, TypeSig.optWritable, hk] using hw)
        (by simpa [TypeSig.scopes, hk] using hA) he).suffix rfl
    | byref =>
      obtain ⟨e, s, rfl, he, rfl⟩ := elemText_stable (sigText_byref hk ▸ h)
      rw [TypeSig.readBack_byref hk]
      exact (sigText_readsAs e s (by simpa [TypeSig.writable, TypeSig.optWritable, hk] using hw)
        (by simpa [TypeSig.scopes, hk] using hA) he).suffix rfl
    | array =>
      obtain ⟨e, s, rfl, he, rfl⟩ := elemText_stable (sigText_array hk ▸ h)
      simp only [TypeSig.writable, hk, TypeSig.optWritable, Bool.and_eq_true, decide_eq_true_eq] at hw
      rw [TypeSig.readBack_array hk hw.1]
      exact (sigText_readsAs e s hw.2 (by simpa [TypeSig.scopes, hk] using hA) he).suffix
        (by simp [rankBrackets, Suffix.text])
    | named =>
      simp only [TypeSig.writable, hk, Bool.and_eq_true, Bool.or_eq_true, beq_iff_eq,
        List.all_eq_true] at hw
      obtain ⟨⟨⟨hname, henc⟩, hns⟩, hargsW⟩ := hw
      simp only [TypeSig.scopes, hk, List.mem_cons] at hA
      obtain ⟨ref, href, hshape⟩ := sigText_named_stable hk h
      -- the reference is the scope's alias and the name as the reader splits it
      obtain ⟨hfullNe, hfullChars, hsplit⟩ := writtenName_reads hname henc hns
      rw [typeRef_text href, quotedName_of_plain hname henc hns] at hshape
      have hlookup : cx.scopes.lookup (lower (aliasOf sc T scope)) = some (f scope) := by
        rw [lower_aliasOf]
        exact hA scope (.inl rfl)
      have haliasChars : ∀ x ∈ (aliasOf sc T scope).toList, Cursor.isNameChar x = true :=
        fun x hx => isNameChar_of_lower_or_digit (aliasOf_chars sc T scope x hx)
      rw [TypeSig.readBack_named hk]
      rcases hshape with ⟨rfl, rfl⟩ | ⟨parts, hne, hargs, rfl⟩
      · exact readsAs_named valueType haliasChars hlookup hfullNe hfullChars hsplit
      · exact readsAs_namedArgs valueType haliasChars hlookup hfullNe hfullChars hsplit
          (argsText_argsReadAs args parts hne hargsW (fun s hs => hA s (.inr hs)) hargs)

/-- At such a table the texts of writable generic arguments, joined by a comma and a blank,
read as their read-back forms. -/
theorem argsText_argsReadAs : ∀ (args : List (Option TypeSig)) (parts : List String), args ≠ [] →
    TypeSig.argsWritable args = true →
    (∀ s ∈ TypeSig.argScopes args, cx.scopes.lookup (aliasOf sc T s) = some (f s)) →
    argsText sc args T = (.ok parts, T) →
    ArgsReadAs cx (String.intercalate ", " parts) (TypeSig.argsReadBack f args)
  | [], _, hne, _, _, _ => absurd rfl hne
  | none :: _, _, _, hw, _, _ => by simp [TypeSig.argsWritable, TypeSig.optWritable] at hw
  | [some a], parts, _, hw, hA, h => by
    obtain ⟨s, ss, ha, hrest, rfl⟩ := argsText_stable_cons h
    simp only [argsText, Prod.mk.injEq, Except.ok.injEq] at hrest
    obtain ⟨rfl, -⟩ := hrest
    simp only [String.intercalate_singleton, TypeSig.argsReadBack, TypeSig.optReadBack]
    exact argsReadAs_single (sigText_readsAs a s
      (by simpa [TypeSig.argsWritable, TypeSig.optWritable] using hw) (by simpa using hA) ha)
  | some a :: b :: rest, parts, _, hw, hA, h => by
    obtain ⟨s, ss, ha, hrest, rfl⟩ := argsText_stable_cons h
    obtain ⟨s', ss', -, -, rfl⟩ := argsText_stable_cons hrest
    simp only [TypeSig.argsWritable, TypeSig.optWritable, Bool.and_eq_true] at hw
    simp only [TypeSig.argScopes, TypeSig.optScopes, List.mem_append] at hA
    rw [String.intercalate_cons_cons]
    exact argsReadAs_cons (sigText_readsAs a s hw.1 (fun x hx => hA x (.inl hx)) ha)
      (argsText_argsReadAs (b :: rest) (s' :: ss') (List.cons_ne_nil _ _)
        (by simpa [TypeSig.argsWritable] using hw.2) (fun x hx => hA x (.inr (by simpa using hx))) hrest)

end

end RoundTrip

/-- A writable signature whose scopes all name a module renders from every table, and its text
reads back as the signature with each named scope `s` replaced by what the reader's scopes
give for the alias written for `s`, and every field its kinds do not use zero.  With scopes
that map each alias back to its scope (`f` the identity) that is the signature itself, up to
those fields. -/
theorem written_type_reads_back {sc : Scoper} {sig : TypeSig} (hw : sig.writable = true)
    (hsc : ∀ s ∈ sig.scopes, ∃ r, sc s = .ok r) (t : AliasTable) :
    ∃ text t', typeText sc (some sig) t = (.ok text, t') ∧
      ∀ (A : List (String × Int32)) (f : Int32 → Int32),
        (∀ s ∈ sig.scopes, A.lookup (aliasOf sc t' s) = some (f s)) →
          TypeSig.parse text A = .ok (sig.readBack f) := by
  obtain ⟨text, t', hrun⟩ := sigText_succeeds sig t hw hsc
  refine ⟨text, t', hrun, fun A f hA => ?_⟩
  -- rendered again from the table it left, the type gives the same text and names no new module
  have hstable : sigText sc sig t' = (.ok text, t') := by
    have hR := sigText_renders sc sig t t' text hrun
    obtain ⟨-, rfl⟩ := hR.run_inj hrun
    exact hR.rerun_eq _ (List.prefix_refl _)
  obtain ⟨off, hread⟩ := @sigText_readsAs sc t' ⟨text, A⟩ f sig text hw hA hstable [] [] (4 * text.length + 4) 0
    Ends.nil (by omega)
  simp only [suffixesText_nil, applySuffixes_nil, List.append_nil] at hread
  simp [TypeSig.parse, hread, Cursor.skipBlanks, Cursor.skipBlanksFrom]

/-- A module `App` whose first reference is `Geometry` and whose second is the base library. -/
def geometryModule : LoadedModule :=
  { (default : LoadedModule) with
    image := { Image.blank with identity := ⟨"App", ⟨1, 0, 0, 0⟩, [], ""⟩ }
    refs := [⟨⟨"Geometry", ⟨2, 0, 0, 0⟩, [], ""⟩, "Geometry.dll", false⟩,
      ⟨Identity.defaultBase, "mscorlib.dll", true⟩]
    base := Identity.defaultBase }

/-- A pointer to a value type `Geometry.Shapes.Registry/Handle` of `Geometry` with arguments
`int32` and a two-dimensional array of the base library's `System.String`. -/
def shapeHandleSig : TypeSig :=
  TypeSig.pointerTo
    { { TypeSig.named 1 "Geometry.Shapes" "Handle" ["Registry"] with valueType := true } with
      args := [some (TypeSig.prim .int32),
        some (TypeSig.arrayOf (TypeSig.named 2 "System" "String" []) 2)] }

/-- The text of `shapeHandleSig` in `geometryModule` reads back. -/
theorem written_type_reads_back_handle :
    shapeHandleSig.writable = true ∧ (∀ s ∈ shapeHandleSig.scopes, ∃ r, geometryModule.scope s = .ok r) ∧
      ∃ text t', typeText geometryModule.scope (some shapeHandleSig) (AliasTable.empty Identity.defaultBase) =
          (.ok text, t') ∧
        ∀ (A : List (String × Int32)) (f : Int32 → Int32),
          (∀ s ∈ shapeHandleSig.scopes, A.lookup (aliasOf geometryModule.scope t' s) = some (f s)) →
            TypeSig.parse text A = .ok (shapeHandleSig.readBack f) := by
  have hw : shapeHandleSig.writable = true := by decide
  have hsc : ∀ s ∈ shapeHandleSig.scopes, ∃ r, geometryModule.scope s = .ok r := by
    intro s hs
    have hscopes : shapeHandleSig.scopes = [1, 2] := by decide
    rw [hscopes, List.mem_cons, List.mem_singleton] at hs
    rcases hs with rfl | rfl
    · exact ⟨_, rfl⟩
    · exact ⟨_, rfl⟩
  exact ⟨hw, hsc, written_type_reads_back hw hsc _⟩

/-- A named type carrying a rank, a field named types do not use. -/
def rankedThing : TypeSig := { TypeSig.named 0 "" "Thing" [] with rank := 3 }

/-- Every scope names the base library. -/
def baseScoper : Scoper := fun _ => .ok (Identity.defaultBase, true)

/-- `rankedThing` is writable and is written `class [mscorlib]Thing`, which reads back with the
scope it had and no rank. -/
theorem named_rank_not_read_back :
    rankedThing.writable = true ∧
      typeText baseScoper (some rankedThing) (AliasTable.empty Identity.defaultBase) =
        (.ok "class [mscorlib]Thing", AliasTable.empty Identity.defaultBase) ∧
      TypeSig.parse "class [mscorlib]Thing" [("mscorlib", 0)] = .ok (TypeSig.named 0 "" "Thing" []) ∧
      (TypeSig.named 0 "" "Thing" []).rank ≠ rankedThing.rank :=
  ⟨by decide, rfl, rfl, by decide⟩

end Assembler

end NativeExports

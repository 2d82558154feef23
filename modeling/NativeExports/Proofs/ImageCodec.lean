import Mathlib
import NativeExports.Image.Codec
import NativeExports.Proofs.MessagePackReading
/-!
Purpose: decoding an encoded image gives the image back, with every MessagePack library that
keeps the contract `MessagePack.Library.Lawful`.

Reading fills drafts (`NativeExports.Image.Draft`); the draft that stands for a value, with no
spare elements behind its lists, is `SigDraft.ofSig s`, `MethodDraft.ofMethod m` and so on, and
finishing it gives the value back.  The reader of each struct, started on the blank draft and
on the struct's encoding, reads that draft; a field left out by the writer holds a zero value,
which the blank draft holds already.

The format writes the length of a list, text or byte string in at most four bytes, so a list
must have fewer than `2 ^ 32` elements and a text or byte string fewer than `2 ^ 32` bytes
(`Text.Fits`).  `Image.Fits` asks this of every list and text of an image, down to every
nested type and signature.

Main results: `encoded_image_decodes_and_reencodes`, over every lawful library, and
`decode_encode`, for the images of the tool and the library it links.
-/

namespace NativeExports

open MessagePack

/-! ### Drafts of values -/

mutual

/-- The draft that stands for a signature. -/
def SigDraft.ofSig : TypeSig → SigDraft
  | ⟨kind, prim, elem, rank, scope, ns, enclosing, name, valueType, args⟩ =>
    ⟨kind, prim, draftElem elem, rank, scope, ns, enclosing, name, valueType,
      ⟨draftArgs args, []⟩⟩

/-- The draft that stands for an element signature. -/
def draftElem : Option TypeSig → Option SigDraft
  | none => none
  | some s => some (SigDraft.ofSig s)

/-- The drafts that stand for generic arguments. -/
def draftArgs : List (Option TypeSig) → List (Option SigDraft)
  | [] => []
  | a :: rest => draftElem a :: draftArgs rest

end

mutual

theorem finish_ofSig : ∀ s : TypeSig, (SigDraft.ofSig s).finish = s
  | ⟨kind, prim, elem, rank, scope, ns, enclosing, name, valueType, args⟩ => by
    simp only [SigDraft.ofSig, SigDraft.finish, finishElem_draftElem elem,
      finishArgs_draftArgs args]

theorem finishElem_draftElem : ∀ e : Option TypeSig, finishElem (draftElem e) = e
  | none => rfl
  | some s => by simp only [draftElem, finishElem, finish_ofSig s]

theorem finishArgs_draftArgs : ∀ args : List (Option TypeSig), finishArgs (draftArgs args) = args
  | [] => rfl
  | a :: rest => by simp only [draftArgs, finishArgs, finishElem_draftElem a,
      finishArgs_draftArgs rest]

end

/-- The draft that stands for an attribute. -/
def AttributeDraft.ofAttribute (a : Attribute) : AttributeDraft := ⟨a.typeName, ⟨a.args, []⟩, ⟨a.named, []⟩⟩

/-- The draft that stands for a parameter. -/
def ParamDraft.ofParam (p : Param) : ParamDraft :=
  ⟨p.name, draftElem p.type, p.flags, ⟨p.attributes.map AttributeDraft.ofAttribute, []⟩⟩

/-- The draft that stands for a method. -/
def MethodDraft.ofMethod (m : Method) : MethodDraft :=
  ⟨m.name, m.visibility, m.isStatic, m.genericParams, m.callConv, ParamDraft.ofParam m.returns,
    ⟨m.params.map ParamDraft.ofParam, []⟩, ⟨m.attributes.map AttributeDraft.ofAttribute, []⟩⟩

mutual

/-- The draft that stands for a type definition. -/
def TypeDefDraft.ofTypeDef : TypeDef → TypeDefDraft
  | ⟨ns, name, visibility, valueType, generics, nested, methods⟩ =>
    ⟨ns, name, visibility, valueType, generics, ⟨draftNested nested, []⟩,
      ⟨methods.map (Option.map MethodDraft.ofMethod), []⟩⟩

/-- The drafts that stand for nested type definitions. -/
def draftNested : List (Option TypeDef) → List (Option TypeDefDraft)
  | [] => []
  | none :: rest => none :: draftNested rest
  | some t :: rest => some (TypeDefDraft.ofTypeDef t) :: draftNested rest

end

/-- The draft that stands for an image, under the current schema. -/
def ImageDraft.ofImage (img : Image) : ImageDraft :=
  ⟨imageSchema, img.identity, img.runtime, ⟨img.references, []⟩,
    ⟨img.functions.map (Option.map MethodDraft.ofMethod), []⟩,
    ⟨img.types.map (Option.map TypeDefDraft.ofTypeDef), []⟩⟩

theorem finish_ofAttribute (a : Attribute) : (AttributeDraft.ofAttribute a).finish = a := rfl

theorem finish_ofParam (p : Param) : (ParamDraft.ofParam p).finish = p := by
  simp [ParamDraft.ofParam, ParamDraft.finish, finishElem_draftElem, finish_ofAttribute,
    Function.comp_def]

theorem finish_ofMethod (m : Method) : (MethodDraft.ofMethod m).finish = m := by
  simp [MethodDraft.ofMethod, MethodDraft.finish, finish_ofParam, finish_ofAttribute,
    Function.comp_def]

mutual

theorem finish_ofTypeDef : ∀ t : TypeDef, (TypeDefDraft.ofTypeDef t).finish = t
  | ⟨ns, name, visibility, valueType, generics, nested, methods⟩ => by
    simp [TypeDefDraft.ofTypeDef, TypeDefDraft.finish, finishNested_draftNested nested,
      finish_ofMethod, Function.comp_def]

theorem finishNested_draftNested :
    ∀ nested : List (Option TypeDef), finishNested (draftNested nested) = nested
  | [] => rfl
  | none :: rest => by simp only [draftNested, finishNested, finishNested_draftNested rest]
  | some t :: rest => by
    simp only [draftNested, finishNested, finish_ofTypeDef t, finishNested_draftNested rest]

end

/-- Finishing the draft of an image gives the image under the current schema. -/
theorem finish_ofImage (img : Image) :
    (ImageDraft.ofImage img).finish = { img with schema := imageSchema } := by
  simp [ImageDraft.ofImage, ImageDraft.finish, finish_ofMethod, finish_ofTypeDef,
    Function.comp_def]

/-! ### What the format can carry -/

/-- A list of texts the format carries. -/
def TextsFit (ts : List String) : Prop := ts.length < 2 ^ 32 ∧ ∀ t ∈ ts, Text.Fits t

mutual

/-- A signature the format carries: its texts and lists are shorter than `2 ^ 32`, down to
every nested signature. -/
def TypeSig.Fits : TypeSig → Prop
  | ⟨_, _, elem, _, _, ns, enclosing, name, _, args⟩ =>
    ElemFits elem ∧ Text.Fits ns ∧ TextsFit enclosing ∧ Text.Fits name ∧
      args.length < 2 ^ 32 ∧ ArgsFit args

/-- An element signature the format carries. -/
def ElemFits : Option TypeSig → Prop
  | none => True
  | some s => s.Fits

/-- Generic arguments the format carries. -/
def ArgsFit : List (Option TypeSig) → Prop
  | [] => True
  | a :: rest => ElemFits a ∧ ArgsFit rest

end

/-- An attribute argument the format carries. -/
def AttrValue.Fits (v : AttrValue) : Prop := Text.Fits v.str

/-- A named argument the format carries. -/
def NamedArg.Fits (n : NamedArg) : Prop := Text.Fits n.name ∧ n.value.Fits

/-- An attribute the format carries. -/
def Attribute.Fits (a : Attribute) : Prop :=
  Text.Fits a.typeName ∧ a.args.length < 2 ^ 32 ∧ (∀ v ∈ a.args, v.Fits) ∧
    a.named.length < 2 ^ 32 ∧ ∀ n ∈ a.named, n.Fits

/-- A parameter the format carries. -/
def Param.Fits (p : Param) : Prop :=
  Text.Fits p.name ∧ ElemFits p.type ∧ p.attributes.length < 2 ^ 32 ∧
    ∀ a ∈ p.attributes, a.Fits

/-- A method the format carries. -/
def Method.Fits (m : Method) : Prop :=
  Text.Fits m.name ∧ TextsFit m.genericParams ∧ m.returns.Fits ∧
    m.params.length < 2 ^ 32 ∧ (∀ p ∈ m.params, p.Fits) ∧ m.attributes.length < 2 ^ 32 ∧
    ∀ a ∈ m.attributes, a.Fits

mutual

/-- A type definition the format carries, down to every nested type. -/
def TypeDef.Fits : TypeDef → Prop
  | ⟨ns, name, _, _, generics, nested, methods⟩ =>
    Text.Fits ns ∧ Text.Fits name ∧ TextsFit generics ∧ nested.length < 2 ^ 32 ∧
      NestedFit nested ∧ methods.length < 2 ^ 32 ∧ ∀ m ∈ methods, ∀ x ∈ m, Method.Fits x

/-- Nested type definitions the format carries. -/
def NestedFit : List (Option TypeDef) → Prop
  | [] => True
  | none :: rest => NestedFit rest
  | some t :: rest => t.Fits ∧ NestedFit rest

end

/-- An identity the format carries. -/
def Identity.Fits (a : Identity) : Prop :=
  Text.Fits a.name ∧ a.token.length < 2 ^ 32 ∧ Text.Fits a.culture

/-- An image the format carries: every text and byte string of it is shorter than `2 ^ 32`
bytes, and every list has fewer than `2 ^ 32` elements. -/
def Image.Fits (img : Image) : Prop :=
  img.identity.Fits ∧ Text.Fits img.runtime ∧
    img.references.length < 2 ^ 32 ∧ (∀ r ∈ img.references, r.Fits) ∧
    img.functions.length < 2 ^ 32 ∧ (∀ m ∈ img.functions, ∀ x ∈ m, Method.Fits x) ∧
    img.types.length < 2 ^ 32 ∧ ∀ t ∈ img.types, ∀ x ∈ t, TypeDef.Fits x


/-! ### Shapes of what is written -/

/-- An argument all of whose fields are left out is the blank one. -/
theorem eq_blank_of_present_valueFields {lib : Library} {v : AttrValue}
    (h : present (valueFields lib v) = []) : v = AttrValue.blank := by
  obtain ⟨kind, int, str, bool⟩ := v
  simp [valueFields, present, keepIf, codeField, textField, flagField] at h
  obtain ⟨rfl, rfl, rfl, rfl⟩ := h
  rfl

theorem entry_eq_of_map {lib : Library} {β : Type} {write : β → List UInt8} {e : Option β}
    {v : List UInt8} (h : e.map write = some v) : entry lib write e = v := by
  cases e with
  | none => cases h
  | some x =>
    cases h
    rfl

theorem draftElem_eq_map (e : Option TypeSig) : draftElem e = e.map SigDraft.ofSig := by
  cases e <;> rfl

theorem draftArgs_eq_map (args : List (Option TypeSig)) : draftArgs args = args.map draftElem := by
  induction args with
  | nil => rfl
  | cons a rest ih => simp only [draftArgs, List.map_cons, ih]

theorem elemField_eq_map (lib : Library) (e : Option TypeSig) :
    elemField lib e = e.map (TypeSig.encode lib) := by
  cases e <;> rfl

theorem argsBytes_eq_flatMap (lib : Library) (args : List (Option TypeSig)) :
    argsBytes lib args = args.flatMap (entry lib (TypeSig.encode lib)) := by
  induction args with
  | nil => rfl
  | cons a rest ih =>
    cases a <;> simp only [argsBytes, List.flatMap_cons, entry, TypeSig.encode, ih]

theorem elemFits_iff {e : Option TypeSig} : ElemFits e ↔ ∀ s, e = some s → s.Fits := by
  cases e <;> simp [ElemFits]

theorem argsFit_iff {args : List (Option TypeSig)} : ArgsFit args ↔ ∀ a ∈ args, ElemFits a := by
  induction args with
  | nil => simp [ArgsFit]
  | cons a rest ih => simp [ArgsFit, ih]

theorem TypeSig.Fits.elem {s t : TypeSig} (hs : s.Fits) (h : s.elem = some t) : t.Fits := by
  obtain ⟨kind, prim, elem, rank, scope, ns, enclosing, name, valueType, args⟩ := s
  exact elemFits_iff.1 hs.1 t h

theorem TypeSig.Fits.arg {s t : TypeSig} (hs : s.Fits) (h : some t ∈ s.args) : t.Fits := by
  obtain ⟨kind, prim, elem, rank, scope, ns, enclosing, name, valueType, args⟩ := s
  exact elemFits_iff.1 (argsFit_iff.1 hs.2.2.2.2.2 _ h) t rfl

theorem listField_eq {β : Type} (lib : Library) (xs : List β) (write : β → List UInt8) :
    listField lib xs write = keepIf (!xs.isEmpty) (lib.arrayHeader xs.length ++ xs.flatMap write) := by
  rw [listField, Library.array_map]

/-- A parameter all of whose fields are left out is the blank one. -/
theorem ofParam_eq_blank {lib : Library} {p : Param} (h : present (paramFields lib p) = []) :
    ParamDraft.ofParam p = ParamDraft.blank := by
  obtain ⟨name, type, flags, attributes⟩ := p
  cases type with
  | none =>
    simp [paramFields, present, keepIf, textField, codeField, listField] at h
    obtain ⟨rfl, rfl, rfl⟩ := h
    rfl
  | some t => simp [paramFields, present] at h

theorem draftNested_eq_map (nested : List (Option TypeDef)) :
    draftNested nested = nested.map (Option.map TypeDefDraft.ofTypeDef) := by
  induction nested with
  | nil => rfl
  | cons x rest ih => cases x <;> simp only [draftNested, List.map_cons, Option.map, ih]

theorem nestedBytes_eq_flatMap (lib : Library) (nested : List (Option TypeDef)) :
    nestedBytes lib nested = nested.flatMap (entry lib (TypeDef.encode lib)) := by
  induction nested with
  | nil => rfl
  | cons x rest ih =>
    cases x <;> simp only [nestedBytes, List.flatMap_cons, entry, TypeDef.encode, ih]

theorem nestedFit_iff {nested : List (Option TypeDef)} :
    NestedFit nested ↔ ∀ t, some t ∈ nested → t.Fits := by
  induction nested with
  | nil => simp [NestedFit]
  | cons x rest ih => cases x <;> simp [NestedFit, ih]

theorem TypeDef.Fits.nested {t u : TypeDef} (ht : t.Fits) (h : some u ∈ t.nested) : u.Fits := by
  obtain ⟨ns, name, visibility, valueType, generics, nested, methods⟩ := t
  exact nestedFit_iff.1 ht.2.2.2.2.1 u h

theorem TypeDef.Fits.method {t : TypeDef} {m : Method} (ht : t.Fits) (h : some m ∈ t.methods) :
    m.Fits := by
  obtain ⟨ns, name, visibility, valueType, generics, nested, methods⟩ := t
  exact ht.2.2.2.2.2.2 _ h m rfl

section Reading

variable {lib : Library} (hlib : lib.Lawful)
include hlib

/-! ### Attributes -/

theorem reads_readCode8 (n : UInt8) : Reads (readCode8 lib) (lib.uint8 n) n :=
  (reads_update UInt64.toUInt8 (hlib.reads_uint8 n)).of_eq rfl (by simp)

/-- An attribute argument reads back. -/
theorem reads_attrValue (fuel : Nat) (v : AttrValue) (hv : v.Fits) :
    Reads (AttrValue.read lib fuel AttrValue.blank) (lib.record (valueFields lib v)) v := by
  obtain ⟨kind, int, str, bool⟩ := v
  refine hlib.reads_record fuel _ _ _ _ _ ?_
    (Nat.lt_of_le_of_lt (length_present_le _) (by simp [valueFields]))
  refine Walks.keep (Text.fits_of_ascii (by decide) (by decide)) rfl
    (reads_update _ (reads_readCode8 hlib kind)) (fun h => by simp at h; subst h; rfl) ?_
  refine Walks.keep (Text.fits_of_ascii (by decide) (by decide)) rfl
    (reads_update _ (hlib.reads_int64 int)) (fun h => by simp at h; subst h; rfl) ?_
  refine Walks.keep (Text.fits_of_ascii (by decide) (by decide)) rfl
    (reads_update _ (hlib.reads_text str hv)) (fun h => by simp at h; subst h; rfl) ?_
  refine Walks.keep (Text.fits_of_ascii (by decide) (by decide)) rfl
    (reads_update _ (hlib.reads_bool bool)) (fun h => by subst h; rfl) ?_
  exact Walks.nil _

/-- A named argument reads back. -/
theorem reads_namedArg (fuel : Nat) (n : NamedArg) (hn : n.Fits) :
    Reads (NamedArg.read lib fuel NamedArg.blank) (lib.record (namedFields lib n)) n := by
  obtain ⟨name, value⟩ := n
  refine hlib.reads_record fuel _ _ _ _ _ ?_
    (Nat.lt_of_le_of_lt (length_present_le _) (by simp [namedFields]))
  refine Walks.keep (Text.fits_of_ascii (by decide) (by decide)) rfl
    (reads_update _ (hlib.reads_text name hn.1)) (fun h => by simp at h; subst h; rfl) ?_
  refine Walks.opt (Text.fits_of_ascii (by decide) (by decide)) rfl
    (fun v hv => ?_) (fun h => ?_) (Walks.nil _)
  · rw [Library.recordField_eq_some hv]
    exact reads_update _ (reads_attrValue hlib fuel value hn.2)
  · obtain rfl := eq_blank_of_present_valueFields (Library.recordField_eq_none.1 h)
    rfl

/-- An attribute reads back. -/
theorem reads_attribute (fuel : Nat) (a : Attribute) (ha : a.Fits) :
    Reads (AttributeDraft.read lib fuel AttributeDraft.blank) (a.encode lib)
      (AttributeDraft.ofAttribute a) := by
  obtain ⟨typeName, args, named⟩ := a
  obtain ⟨htype, hargsLen, hargs, hnamedLen, hnamed⟩ := ha
  refine hlib.reads_record fuel _ _ _ _ _ ?_ (Nat.lt_of_le_of_lt (length_present_le _) (by simp))
  refine Walks.keep (Text.fits_of_ascii (by decide) (by decide)) rfl
    (reads_update _ (hlib.reads_text typeName htype)) (fun h => by simp at h; subst h; rfl) ?_
  refine Walks.keep (Text.fits_of_ascii (by decide) (by decide)) rfl
    (reads_update _ (hlib.reads_list_self (fun v => lib.record (valueFields lib v)) args hargsLen
      fun v hv => reads_attrValue hlib fuel v (hargs v hv)))
    (fun h => by simp at h; subst h; rfl) ?_
  refine Walks.keep (Text.fits_of_ascii (by decide) (by decide)) rfl
    (reads_update _ (hlib.reads_list_self (fun n => lib.record (namedFields lib n)) named hnamedLen
      fun n hn => reads_namedArg hlib fuel n (hnamed n hn)))
    (fun h => by simp at h; subst h; rfl) ?_
  exact Walks.nil _

/-- An entry that may be empty reads back over an absent previous value, when what is written
for it is a struct. -/
theorem reads_entry {α β : Type} {elem : α → Reader α} {zero : α} {write : β → List UInt8}
    {val : β → α} (hw : ∀ y, ∃ ws, write y = lib.record ws) (e : Option β)
    (h : ∀ y, e = some y → Reads (elem zero) (write y) (val y)) :
    Reads (lib.optionValue elem zero none) (entry lib write e) (e.map val) := by
  cases e with
  | none => exact hlib.reads_absent elem zero none
  | some y =>
    obtain ⟨ws, hws⟩ := hw y
    have hread := h y rfl
    rw [hws] at hread
    show Reads _ (write y) _
    rw [hws]
    exact hlib.reads_present elem zero none ws (val y) hread

/-! ### Signatures -/

/-- An element signature is written inside its signature. -/
theorem length_encode_lt_of_elem {s t : TypeSig} (h : s.elem = some t) :
    (t.encode lib).length < (s.encode lib).length := by
  obtain ⟨kind, prim, elem, rank, scope, ns, enclosing, name, valueType, args⟩ := s
  subst h
  exact hlib.field_shorter _ "Elem" _ (by simp [sigFields, elemField, TypeSig.encode])

/-- A generic argument is written inside its signature. -/
theorem length_encode_lt_of_arg {s t : TypeSig} (h : some t ∈ s.args) :
    (t.encode lib).length < (s.encode lib).length := by
  obtain ⟨kind, prim, elem, rank, scope, ns, enclosing, name, valueType, args⟩ := s
  change some t ∈ args at h
  have hne : (!args.isEmpty) = true := by
    cases args with
    | nil => cases h
    | cons _ _ => rfl
  have hmem : ("Args", some (lib.arrayHeader args.length ++ argsBytes lib args)) ∈
      sigFields lib ⟨kind, prim, elem, rank, scope, ns, enclosing, name, valueType, args⟩ := by
    simp [sigFields, keepIf, hne]
  have hin : (t.encode lib).length ≤ (args.flatMap (entry lib (TypeSig.encode lib))).length :=
    Library.length_le_flatMap (entry lib (TypeSig.encode lib)) h
  have hout := hlib.field_shorter _ _ _ hmem
  rw [argsBytes_eq_flatMap, List.length_append] at hout
  show (t.encode lib).length < (lib.record (sigFields lib _)).length
  omega

/-- A signature entry reads back as its draft. -/
theorem reads_sigEntry (fuel : Nat) (e : Option TypeSig)
    (h : ∀ t, e = some t →
      Reads (SigDraft.read lib fuel SigDraft.blank) (t.encode lib) (SigDraft.ofSig t)) :
    Reads (lib.optionValue (SigDraft.read lib fuel) SigDraft.blank none)
      (entry lib (TypeSig.encode lib) e) (draftElem e) :=
  (reads_entry hlib (fun t => ⟨sigFields lib t, rfl⟩) e h).of_eq rfl (draftElem_eq_map e).symm

/-- Generic arguments read back as their drafts, with nothing spare. -/
theorem reads_sigArgs (fuel : Nat) (args : List (Option TypeSig)) (hlen : args.length < 2 ^ 32)
    (h : ∀ a ∈ args, ∀ t, a = some t →
      Reads (SigDraft.read lib fuel SigDraft.blank) (t.encode lib) (SigDraft.ofSig t)) :
    Reads (lib.backedValue (lib.optionValue (SigDraft.read lib fuel) SigDraft.blank) none
      Backed.empty) (lib.arrayHeader args.length ++ argsBytes lib args) ⟨draftArgs args, []⟩ := by
  rw [argsBytes_eq_flatMap, draftArgs_eq_map, ← Library.array_map]
  exact hlib.reads_list _ _ _ _ args hlen fun a ha => reads_sigEntry hlib fuel a (h a ha)

theorem reads_scope (d : SigDraft) (n : Int32) :
    Reads (do pure { d with scope := (← lib.signed).toInt32 }) (lib.int32 n)
      { d with scope := n } :=
  (reads_update (fun x : Int64 => { d with scope := x.toInt32 }) (hlib.reads_int32 n)).of_eq rfl
    (by simp)

/-- A signature reads back as its draft, given fuel beyond the bytes it takes. -/
theorem reads_sig : ∀ (fuel : Nat) (s : TypeSig), s.Fits → (s.encode lib).length < fuel →
    Reads (SigDraft.read lib fuel SigDraft.blank) (s.encode lib) (SigDraft.ofSig s)
  | 0, _, _, hlen => absurd hlen (Nat.not_lt_zero _)
  | fuel + 1, s, hs, hlen => by
    -- every signature written inside this one is shorter, so the fuel left reads it
    have ihElem : ∀ t, s.elem = some t →
        Reads (SigDraft.read lib fuel SigDraft.blank) (t.encode lib) (SigDraft.ofSig t) :=
      fun t ht => reads_sig fuel t (hs.elem ht)
        (by have := length_encode_lt_of_elem hlib ht; omega)
    have ihArg : ∀ t, some t ∈ s.args →
        Reads (SigDraft.read lib fuel SigDraft.blank) (t.encode lib) (SigDraft.ofSig t) :=
      fun t ht => reads_sig fuel t (hs.arg ht)
        (by have := length_encode_lt_of_arg hlib ht; omega)
    obtain ⟨kind, prim, elem, rank, scope, ns, enclosing, name, valueType, args⟩ := s
    obtain ⟨-, hns, henc, hname, hargsLen, -⟩ := hs
    refine hlib.reads_record fuel _ _ _ _ _ ?_ (Nat.lt_of_le_of_lt (length_present_le _)
      (by simp [sigFields]))
    refine Walks.keep (Text.fits_of_ascii (by decide) (by decide)) rfl
      (reads_update _ (reads_readCode8 hlib kind)) (fun h => by simp at h; subst h; rfl) ?_
    refine Walks.keep (Text.fits_of_ascii (by decide) (by decide)) rfl
      (reads_update _ (reads_readCode8 hlib prim)) (fun h => by simp at h; subst h; rfl) ?_
    refine Walks.opt (Text.fits_of_ascii (by decide) (by decide)) rfl
      (fun v hv => reads_update _ ((reads_sigEntry hlib fuel elem ihElem).of_eq
        (entry_eq_of_map ((elemField_eq_map lib elem).symm.trans hv)) rfl))
      (fun h => by cases elem with | none => rfl | some t => cases h) ?_
    refine Walks.keep (Text.fits_of_ascii (by decide) (by decide)) rfl
      (reads_update _ (hlib.reads_int rank)) (fun h => by simp at h; subst h; rfl) ?_
    refine Walks.keep (Text.fits_of_ascii (by decide) (by decide)) rfl
      (reads_scope hlib _ scope) (fun h => by simp at h; subst h; rfl) ?_
    refine Walks.keep (Text.fits_of_ascii (by decide) (by decide)) rfl
      (reads_update _ (hlib.reads_text ns hns)) (fun h => by simp at h; subst h; rfl) ?_
    refine Walks.keep (Text.fits_of_ascii (by decide) (by decide)) rfl
      (reads_update _ (hlib.reads_texts _ _ henc.1 henc.2))
      (fun h => by simp at h; subst h; rfl) ?_
    refine Walks.keep (Text.fits_of_ascii (by decide) (by decide)) rfl
      (reads_update _ (hlib.reads_text name hname)) (fun h => by simp at h; subst h; rfl) ?_
    refine Walks.keep (Text.fits_of_ascii (by decide) (by decide)) rfl
      (reads_update _ (hlib.reads_bool valueType)) (fun h => by subst h; rfl) ?_
    refine Walks.keep (Text.fits_of_ascii (by decide) (by decide)) rfl
      (reads_update _ (reads_sigArgs hlib fuel args hargsLen fun a ha t hat =>
        ihArg t (hat ▸ ha)))
      (fun h => by simp at h; subst h; rfl) ?_
    exact Walks.nil _

/-! ### Parameters and methods -/

/-- An element of a list field is shorter than the struct that holds the field. -/
theorem length_lt_record_of_listField {β : Type} {ws : List Field} (k : String) {xs : List β}
    (write : β → List UInt8) {x : β} (h : (k, listField lib xs write) ∈ ws) (hx : x ∈ xs) :
    (write x).length < (lib.record ws).length :=
  hlib.length_lt_record_of_mem k write (listField_eq lib xs write ▸ h) hx

/-- A parameter reads back as its draft, given fuel beyond the bytes it takes. -/
theorem reads_param (fuel : Nat) (p : Param) (hp : p.Fits)
    (hlen : (lib.record (paramFields lib p)).length < fuel) :
    Reads (ParamDraft.read lib fuel ParamDraft.blank) (lib.record (paramFields lib p))
      (ParamDraft.ofParam p) := by
  have ihType : ∀ t, p.type = some t →
      Reads (SigDraft.read lib fuel SigDraft.blank) (t.encode lib) (SigDraft.ofSig t) :=
    fun t ht => reads_sig hlib fuel t (elemFits_iff.1 hp.2.1 t ht) (by
      have := hlib.field_shorter _ "Type" _
        (show ("Type", some (t.encode lib)) ∈ paramFields lib p by simp [paramFields, ht])
      omega)
  obtain ⟨name, type, flags, attributes⟩ := p
  obtain ⟨hname, -, hattrLen, hattrs⟩ := hp
  refine hlib.reads_record fuel _ _ _ _ _ ?_ (Nat.lt_of_le_of_lt (length_present_le _)
    (by simp [paramFields]))
  refine Walks.keep (Text.fits_of_ascii (by decide) (by decide)) rfl
    (reads_update _ (hlib.reads_text name hname)) (fun h => by simp at h; subst h; rfl) ?_
  refine Walks.opt (Text.fits_of_ascii (by decide) (by decide)) rfl
    (fun v hv => reads_update _ ((reads_sigEntry hlib fuel type ihType).of_eq
      (entry_eq_of_map hv) rfl))
    (fun h => by cases type with | none => rfl | some t => cases h) ?_
  refine Walks.keep (Text.fits_of_ascii (by decide) (by decide)) rfl
    (reads_update _ (reads_readCode8 hlib flags)) (fun h => by simp at h; subst h; rfl) ?_
  refine Walks.keep (Text.fits_of_ascii (by decide) (by decide)) rfl
    (reads_update _ (hlib.reads_list _ _ (Attribute.encode lib) AttributeDraft.ofAttribute
      attributes hattrLen fun a ha => reads_attribute hlib fuel a (hattrs a ha)))
    (fun h => by simp at h; subst h; rfl) ?_
  exact Walks.nil _

/-- A method reads back as its draft, given fuel beyond the bytes it takes. -/
theorem reads_method (fuel : Nat) (m : Method) (hm : m.Fits) (hlen : (m.encode lib).length < fuel) :
    Reads (MethodDraft.read lib fuel MethodDraft.blank) (m.encode lib) (MethodDraft.ofMethod m) := by
  -- the return value and the parameters are written inside the method, so the fuel reads them
  have hreturns : ∀ v, lib.recordField (paramFields lib m.returns) = some v →
      Reads (ParamDraft.read lib fuel ParamDraft.blank) v (ParamDraft.ofParam m.returns) := by
    intro v hv
    have hlt : v.length < (m.encode lib).length := hlib.field_shorter _ "Return" _ (by simp [hv])
    rw [Library.recordField_eq_some hv] at hlt ⊢
    exact reads_param hlib fuel _ hm.2.2.1 (by omega)
  have hparams : ∀ p ∈ m.params, Reads (ParamDraft.read lib fuel ParamDraft.blank)
      (lib.record (paramFields lib p)) (ParamDraft.ofParam p) := by
    intro p hp
    have hlt : (lib.record (paramFields lib p)).length < (m.encode lib).length :=
      length_lt_record_of_listField hlib "Params" (fun p => lib.record (paramFields lib p))
        (by simp) hp
    exact reads_param hlib fuel p (hm.2.2.2.2.1 p hp) (by omega)
  obtain ⟨name, visibility, isStatic, generics, callConv, returns, params, attributes⟩ := m
  obtain ⟨hname, hgen, -, hparamsLen, -, hattrLen, hattrs⟩ := hm
  refine hlib.reads_record fuel _ _ _ _ _ ?_ (Nat.lt_of_le_of_lt (length_present_le _) (by simp))
  refine Walks.keep (Text.fits_of_ascii (by decide) (by decide)) rfl
    (reads_update _ (hlib.reads_text name hname)) (fun h => by simp at h; subst h; rfl) ?_
  refine Walks.keep (Text.fits_of_ascii (by decide) (by decide)) rfl
    (reads_update _ (reads_readCode8 hlib visibility)) (fun h => by simp at h; subst h; rfl) ?_
  refine Walks.keep (Text.fits_of_ascii (by decide) (by decide)) rfl
    (reads_update _ (hlib.reads_bool isStatic)) (fun h => by subst h; rfl) ?_
  refine Walks.keep (Text.fits_of_ascii (by decide) (by decide)) rfl
    (reads_update _ (hlib.reads_texts _ _ hgen.1 hgen.2)) (fun h => by simp at h; subst h; rfl) ?_
  refine Walks.keep (Text.fits_of_ascii (by decide) (by decide)) rfl
    (reads_update _ (reads_readCode8 hlib callConv)) (fun h => by simp at h; subst h; rfl) ?_
  refine Walks.opt (Text.fits_of_ascii (by decide) (by decide)) rfl
    (fun v hv => reads_update _ (hreturns v hv))
    (fun h => by
      rw [ofParam_eq_blank (Library.recordField_eq_none.1 h)]
      rfl) ?_
  refine Walks.keep (Text.fits_of_ascii (by decide) (by decide)) rfl
    (reads_update _ (hlib.reads_list _ _ (fun p => lib.record (paramFields lib p))
      ParamDraft.ofParam params hparamsLen hparams))
    (fun h => by simp at h; subst h; rfl) ?_
  refine Walks.keep (Text.fits_of_ascii (by decide) (by decide)) rfl
    (reads_update _ (hlib.reads_list _ _ (Attribute.encode lib) AttributeDraft.ofAttribute
      attributes hattrLen fun a ha => reads_attribute hlib fuel a (hattrs a ha)))
    (fun h => by simp at h; subst h; rfl) ?_
  exact Walks.nil _

/-! ### Type definitions -/

/-- A nested type definition is written inside its type definition. -/
theorem length_encode_lt_of_nested {t u : TypeDef} (h : some u ∈ t.nested) :
    (u.encode lib).length < (t.encode lib).length := by
  obtain ⟨ns, name, visibility, valueType, generics, nested, methods⟩ := t
  exact hlib.length_lt_record_of_mem "Nested" (entry lib (TypeDef.encode lib))
    (by simp [typeFields, nestedBytes_eq_flatMap]) h

/-- A method of a type definition is written inside it. -/
theorem length_encode_lt_of_method {t : TypeDef} {m : Method} (h : some m ∈ t.methods) :
    (m.encode lib).length < (t.encode lib).length := by
  obtain ⟨ns, name, visibility, valueType, generics, nested, methods⟩ := t
  exact length_lt_record_of_listField hlib "Methods" (entry lib (Method.encode lib))
    (by simp [typeFields]) h

/-- Nested type definitions read back as their drafts, with nothing spare. -/
theorem reads_nested (fuel : Nat) (nested : List (Option TypeDef)) (hlen : nested.length < 2 ^ 32)
    (h : ∀ u, some u ∈ nested →
      Reads (TypeDefDraft.read lib fuel TypeDefDraft.blank) (u.encode lib)
        (TypeDefDraft.ofTypeDef u)) :
    Reads (lib.backedValue (lib.optionValue (TypeDefDraft.read lib fuel) TypeDefDraft.blank) none
      Backed.empty) (lib.arrayHeader nested.length ++ nestedBytes lib nested)
      ⟨draftNested nested, []⟩ := by
  rw [nestedBytes_eq_flatMap, draftNested_eq_map, ← Library.array_map]
  exact hlib.reads_list _ _ _ _ nested hlen fun x hx =>
    reads_entry hlib (fun u => ⟨typeFields lib u, rfl⟩) x fun u hu => h u (hu ▸ hx)

/-- A type definition reads back as its draft, given fuel beyond the bytes it takes. -/
theorem reads_typeDef : ∀ (fuel : Nat) (t : TypeDef), t.Fits → (t.encode lib).length < fuel →
    Reads (TypeDefDraft.read lib fuel TypeDefDraft.blank) (t.encode lib) (TypeDefDraft.ofTypeDef t)
  | 0, _, _, hlen => absurd hlen (Nat.not_lt_zero _)
  | fuel + 1, t, ht, hlen => by
    -- nested types and methods are written inside this type, so the fuel left reads them
    have ihNested : ∀ u, some u ∈ t.nested →
        Reads (TypeDefDraft.read lib fuel TypeDefDraft.blank) (u.encode lib)
          (TypeDefDraft.ofTypeDef u) :=
      fun u hu => reads_typeDef fuel u (ht.nested hu)
        (by have := length_encode_lt_of_nested hlib hu; omega)
    have ihMethod : ∀ m, some m ∈ t.methods →
        Reads (MethodDraft.read lib fuel MethodDraft.blank) (m.encode lib)
          (MethodDraft.ofMethod m) :=
      fun m hm => reads_method hlib fuel m (ht.method hm)
        (by have := length_encode_lt_of_method hlib hm; omega)
    obtain ⟨ns, name, visibility, valueType, generics, nested, methods⟩ := t
    obtain ⟨hns, hname, hgen, hnestedLen, -, hmethodsLen, -⟩ := ht
    refine hlib.reads_record fuel _ _ _ _ _ ?_ (Nat.lt_of_le_of_lt (length_present_le _)
      (by simp [typeFields]))
    refine Walks.keep (Text.fits_of_ascii (by decide) (by decide)) rfl
      (reads_update _ (hlib.reads_text ns hns)) (fun h => by simp at h; subst h; rfl) ?_
    refine Walks.keep (Text.fits_of_ascii (by decide) (by decide)) rfl
      (reads_update _ (hlib.reads_text name hname)) (fun h => by simp at h; subst h; rfl) ?_
    refine Walks.keep (Text.fits_of_ascii (by decide) (by decide)) rfl
      (reads_update _ (reads_readCode8 hlib visibility)) (fun h => by simp at h; subst h; rfl) ?_
    refine Walks.keep (Text.fits_of_ascii (by decide) (by decide)) rfl
      (reads_update _ (hlib.reads_bool valueType)) (fun h => by subst h; rfl) ?_
    refine Walks.keep (Text.fits_of_ascii (by decide) (by decide)) rfl
      (reads_update _ (hlib.reads_texts _ _ hgen.1 hgen.2)) (fun h => by simp at h; subst h; rfl) ?_
    refine Walks.keep (Text.fits_of_ascii (by decide) (by decide)) rfl
      (reads_update _ (reads_nested hlib fuel nested hnestedLen ihNested))
      (fun h => by simp at h; subst h; rfl) ?_
    refine Walks.keep (Text.fits_of_ascii (by decide) (by decide)) rfl
      (reads_update _ (hlib.reads_list _ _ (entry lib (Method.encode lib))
        (Option.map MethodDraft.ofMethod) methods hmethodsLen fun x hx =>
          reads_entry hlib (fun m => ⟨_, rfl⟩) x fun m hm => ihMethod m (hm ▸ hx)))
      (fun h => by simp at h; subst h; rfl) ?_
    exact Walks.nil _

/-! ### Identities and images -/

theorem reads_uint16Value (n : UInt16) :
    Reads (do pure (← lib.unsigned).toUInt16 : Reader UInt16) (lib.uint16 n) n :=
  (reads_update UInt64.toUInt16 (hlib.reads_uint16 n)).of_eq rfl (by simp)

/-- The four version components read back over any previous version. -/
theorem reads_version (v old : Version4) :
    Reads (Version4.read lib old) (lib.array (v.parts.map lib.uint16)) v := by
  have hcount : Reads lib.arrayLength (lib.arrayHeader 4) (some 4) :=
    hlib.reads_arrayLength 4 (by decide)
  have helems : Reads (elements (fun _ => do pure (← lib.unsigned).toUInt16) 0 4 [])
      (v.parts.flatMap lib.uint16) v.parts :=
    (@reads_elements UInt16 UInt16 (fun _ => do pure (← lib.unsigned).toUInt16) 0 lib.uint16 id
      v.parts fun p _ => reads_uint16Value hlib p).of_eq rfl (List.map_id _)
  rw [Library.array_map]
  refine (Reads.bind hcount (Reads.bind helems
    (Reads.pure (Version4.ofParts (v.parts ++ old.parts.drop 4))))).of_eq
      (by simp [Version4.parts]) ?_
  obtain ⟨a, b, c, d⟩ := v
  rfl

/-- An identity reads back. -/
theorem reads_identity (fuel : Nat) (a : Identity) (ha : a.Fits) :
    Reads (Identity.read lib fuel Identity.blank) (a.encode lib) a := by
  obtain ⟨name, version, token, culture⟩ := a
  obtain ⟨hname, htoken, hculture⟩ := ha
  refine hlib.reads_record fuel _ _ _ _ _ ?_ (Nat.lt_of_le_of_lt (length_present_le _) (by simp))
  refine Walks.keep (Text.fits_of_ascii (by decide) (by decide)) rfl
    (reads_update _ (hlib.reads_text name hname)) (fun h => by simp at h; subst h; rfl) ?_
  refine Walks.written (Text.fits_of_ascii (by decide) (by decide)) rfl
    (reads_update _ (reads_version hlib version _)) ?_
  refine Walks.keep (Text.fits_of_ascii (by decide) (by decide)) rfl
    (reads_update _ (hlib.reads_binary token htoken)) (fun h => by simp at h; subst h; rfl) ?_
  refine Walks.keep (Text.fits_of_ascii (by decide) (by decide)) rfl
    (reads_update _ (hlib.reads_text culture hculture)) (fun h => by simp at h; subst h; rfl) ?_
  exact Walks.nil _

theorem reads_schema (d : ImageDraft) :
    Reads (do pure { d with schema := (← lib.unsigned).toUInt16 }) (lib.uint16 imageSchema)
      { d with schema := imageSchema } :=
  (reads_update (fun x : UInt64 => { d with schema := x.toUInt16 })
    (hlib.reads_uint16 imageSchema)).of_eq rfl (by simp)

/-- The struct of an image reads back as its draft, given fuel for as many bytes as the image
takes. -/
theorem reads_image (fuel : Nat) (img : Image) (h : img.Fits)
    (hlen : (img.encodeWith lib).length ≤ fuel) :
    Reads (ImageDraft.read lib fuel ImageDraft.blank) (lib.record (imageFields lib img))
      (ImageDraft.ofImage img) := by
  have hbody : (lib.record (imageFields lib img)).length < fuel := by
    simp only [Image.encodeWith, List.length_append] at hlen
    simp only [imageMagic, List.length_cons, List.length_nil] at hlen
    omega
  -- every method and type is written inside the image's struct
  have hfunction : ∀ m, some m ∈ img.functions →
      Reads (MethodDraft.read lib fuel MethodDraft.blank) (m.encode lib)
        (MethodDraft.ofMethod m) := by
    intro m hm
    have hlt : (m.encode lib).length < (lib.record (imageFields lib img)).length :=
      length_lt_record_of_listField hlib "Functions" (entry lib (Method.encode lib))
        (by simp [imageFields]) hm
    exact reads_method hlib fuel m (h.2.2.2.2.2.1 _ hm m rfl) (by omega)
  have htype : ∀ t, some t ∈ img.types →
      Reads (TypeDefDraft.read lib fuel TypeDefDraft.blank) (t.encode lib)
        (TypeDefDraft.ofTypeDef t) := by
    intro t ht
    have hlt : (t.encode lib).length < (lib.record (imageFields lib img)).length :=
      length_lt_record_of_listField hlib "Types" (entry lib (TypeDef.encode lib))
        (by simp [imageFields]) ht
    exact reads_typeDef hlib fuel t (h.2.2.2.2.2.2.2 _ ht t rfl) (by omega)
  obtain ⟨schema, identity, runtime, references, functions, types⟩ := img
  obtain ⟨hidentity, hruntime, hrefsLen, hrefs, hfunctionsLen, -, htypesLen, -⟩ := h
  refine hlib.reads_record fuel _ _ _ _ _ ?_ (Nat.lt_of_le_of_lt (length_present_le _)
    (by simp [imageFields]))
  refine Walks.keep (Text.fits_of_ascii (by decide) (by decide)) rfl
    (reads_schema hlib _) (fun h => absurd h (by decide)) ?_
  refine Walks.written (Text.fits_of_ascii (by decide) (by decide)) rfl
    (reads_update _ (reads_identity hlib fuel identity hidentity)) ?_
  refine Walks.keep (Text.fits_of_ascii (by decide) (by decide)) rfl
    (reads_update _ (hlib.reads_text runtime hruntime)) (fun h => by simp at h; subst h; rfl) ?_
  refine Walks.keep (Text.fits_of_ascii (by decide) (by decide)) rfl
    (reads_update _ (hlib.reads_list_self (Identity.encode lib) references hrefsLen
      fun a ha => reads_identity hlib fuel a (hrefs a ha)))
    (fun h => by simp at h; subst h; rfl) ?_
  refine Walks.keep (Text.fits_of_ascii (by decide) (by decide)) rfl
    (reads_update _ (hlib.reads_list _ _ (entry lib (Method.encode lib))
      (Option.map MethodDraft.ofMethod) functions hfunctionsLen fun x hx =>
        reads_entry hlib (fun m => ⟨_, rfl⟩) x fun m hm => hfunction m (hm ▸ hx)))
    (fun h => by simp at h; subst h; rfl) ?_
  refine Walks.keep (Text.fits_of_ascii (by decide) (by decide)) rfl
    (reads_update _ (hlib.reads_list _ _ (entry lib (TypeDef.encode lib))
      (Option.map TypeDefDraft.ofTypeDef) types htypesLen fun x hx =>
        reads_entry hlib (fun t => ⟨_, rfl⟩) x fun t ht => htype t (ht ▸ hx)))
    (fun h => by simp at h; subst h; rfl) ?_
  exact Walks.nil _

/-- Decoding an encoded image gives the image back under the current schema. -/
theorem decodeWith_encodeWith (img : Image) (h : img.Fits) :
    Image.decodeWith lib (img.encodeWith lib) = .ok { img with schema := imageSchema } := by
  have hread := reads_image hlib ((img.encodeWith lib).length + 1) img h (Nat.le_succ _) []
  rw [List.append_nil] at hread
  have hmagic : (img.encodeWith lib).take 4 = imageMagic := by
    simp [Image.encodeWith, imageMagic]
  have hbody : (img.encodeWith lib).drop 4 = lib.record (imageFields lib img) := by
    simp [Image.encodeWith, imageMagic]
  unfold Image.decodeWith
  rw [hmagic, hbody, hread]
  simp [finish_ofImage]

end Reading

/-- An image the format carries decodes, with any lawful MessagePack library, from that
library's encoding of it, under the current schema, and encoding what was decoded gives the
same bytes again. -/
theorem encoded_image_decodes_and_reencodes (lib : Library) (hlib : lib.Lawful) (img : Image)
    (h : img.Fits) :
    Image.decodeWith lib (img.encodeWith lib) = .ok { img with schema := imageSchema } ∧
      (Image.decodeWith lib (img.encodeWith lib)).map (Image.encodeWith lib) =
        .ok (img.encodeWith lib) := by
  have hdecode := decodeWith_encodeWith hlib img h
  refine ⟨hdecode, ?_⟩
  rw [hdecode]
  rfl

/-- The tool's images decode from their encoding, the linked library being lawful. -/
theorem decode_encode (img : Image) (h : img.Fits) :
    Image.decode img.encode = .ok { img with schema := imageSchema } :=
  decodeWith_encodeWith v5_lawful img h

/-- A signature of the 32-bit integer type. -/
def int32Sig : TypeSig := ⟨1, 8, none, 0, 0, "", [], "", false, []⟩

/-- A library image: one reference, a module function between absent entries taking an
integer and marked by an attribute with a negative argument, and a generic value type with an
absent nested type and a method returning a pointer. -/
def shapesImage : Image :=
  ⟨0, ⟨"Shapes", ⟨1, 2, 0, 0⟩, [0xb7, 0x7a], ""⟩, "v4.0.30319",
    [⟨"mscorlib", ⟨4, 0, 0, 0⟩, [0xb7, 0x7a, 0x5c, 0x56], ""⟩],
    [none, some ⟨"Area", 2, true, [], 0, ⟨"", some int32Sig, 0, []⟩,
      [⟨"side", some int32Sig, 1, []⟩], [⟨"Export", [⟨1, -3, "", false⟩], [⟨"Name", ⟨2, 0, "area", false⟩⟩]⟩]⟩,
      none],
    [some ⟨"Geo", "Point", 2, true, ["T"], [none],
      [some ⟨"Origin", 2, true, [], 0, ⟨"", some ⟨2, 0, some int32Sig, 0, 0, "", [], "", false, []⟩, 0, []⟩,
        [], []⟩]⟩]⟩

theorem shapesImage_round_trip :
    shapesImage.Fits ∧
      Image.decode shapesImage.encode = .ok { shapesImage with schema := imageSchema } ∧
        (Image.decode shapesImage.encode).map Image.encode = .ok shapesImage.encode := by
  have hfits : shapesImage.Fits := by
    -- every text of the image is ASCII
    simp (disch := decide) [shapesImage, int32Sig, Image.Fits, Identity.Fits, Method.Fits,
      Param.Fits, TypeDef.Fits, NestedFit, Attribute.Fits, AttrValue.Fits, NamedArg.Fits,
      TextsFit, ElemFits, TypeSig.Fits, ArgsFit, Text.fits_of_ascii]
  exact ⟨hfits, encoded_image_decodes_and_reencodes v5 v5_lawful shapesImage hfits⟩

end NativeExports

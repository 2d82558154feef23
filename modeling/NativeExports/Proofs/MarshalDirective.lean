import Mathlib
import NativeExports.Marshal.Directive
import NativeExports.Proofs.ExceptSteps
/-!
Purpose: when a marshalling directive renders.

A marshalling attribute renders exactly when its first positional argument is an integer naming a
kind the writer knows, every named parameter is one that kind reads, the parameters the kind cannot
do without are there, and every parameter holds a value of the right kind.  A name given more than
once counts with its last value.  What each kind reads is listed in `paramsRead`.  A count is an
integer that is not negative; an array element is a kind that renders without parameters; a safe
array's element is a variant type with no flags but vector, array and by-reference over a known
base; the names of a custom marshaler are texts.

The proof reads one parameter at a time (`ReadsParam`): reading succeeds exactly when the parameter
is absent or fits, and leaves the other parameters.  Each kind's rendering is a chain of such reads
(`nativeText_ok_iff`), after which nothing may be left.

Main result: `directiveText_ok_iff`.
-/

namespace NativeExports.Marshal

/-! ### What renders -/

/-- The kinds the writer renders: those written as one keyword, the interface kinds, and the five
kinds with parameters of their own. -/
def RenderedKind (k : Int) : Prop :=
  (simpleNative.lookup k).isSome ∨ (interfaceNative.lookup k).isSome ∨
    k = lpArray ∨ k = safeArray ∨ k = byValArray ∨ k = byValTStr ∨ k = customMarshaler

/-- The kinds that render with no parameters: those written as one keyword, the interface kinds,
arrays passed by pointer and safe arrays. -/
def BareKind (k : Int) : Prop :=
  (simpleNative.lookup k).isSome ∨ (interfaceNative.lookup k).isSome ∨ k = lpArray ∨ k = safeArray

/-- The named parameters a kind reads; the kinds written as one keyword read none. -/
def paramsRead (k : Int) : List String :=
  if (interfaceNative.lookup k).isSome then ["IidParameterIndex"]
  else if k = lpArray then ["ArraySubType", "SizeConst", "SizeParamIndex"]
  else if k = safeArray then ["SafeArraySubType"]
  else if k = byValArray then ["SizeConst", "ArraySubType"]
  else if k = byValTStr then ["SizeConst"]
  else if k = customMarshaler then ["MarshalType", "MarshalTypeRef", "MarshalCookie"]
  else []

/-- A variant type that renders: no bits set above the low twelve but the vector, array and
by-reference flags, a known base type in the low twelve, and flags only over a base that is not
the empty one. -/
def VariantRenders (v : Int) : Prop :=
  0 ≤ v ∧ v < 0x8000 ∧ (variantNames.lookup (v % 0x1000)).isSome ∧ (0x1000 ≤ v → v % 0x1000 ≠ 0)

/-- A count: an integer that is not negative. -/
def CountFits (v : AttrValue) : Prop := v.valueKind = .int ∧ 0 ≤ v.int.toInt

/-- A text: a string or a type given by name. -/
def TextFits (v : AttrValue) : Prop := v.valueKind = .string ∨ v.valueKind = .type

/-- An array element: an integer naming a kind that renders without parameters. -/
def ElementFits (v : AttrValue) : Prop := v.valueKind = .int ∧ BareKind v.int.toInt

/-- A safe array's element: an integer naming a variant type that renders. -/
def VariantFits (v : AttrValue) : Prop := v.valueKind = .int ∧ VariantRenders v.int.toInt

/-- The parameters that hold counts. -/
def countParams : List String := ["SizeConst", "SizeParamIndex", "IidParameterIndex"]

/-- The parameters that hold texts. -/
def textParams : List String := ["MarshalType", "MarshalTypeRef", "MarshalCookie"]

/-- A value of the right kind for the parameter of that name; no other name has one. -/
def ParamFits (name : String) (v : AttrValue) : Prop :=
  if name ∈ countParams then CountFits v
  else if name ∈ textParams then TextFits v
  else if name = "ArraySubType" then ElementFits v
  else if name = "SafeArraySubType" then VariantFits v
  else False

/-- A custom marshaler named by a parameter: its text is not empty. -/
def NamesMarshaler (v : Option AttrValue) : Prop := ∃ x, v = some x ∧ x.str ≠ ""

/-- The parameters a kind cannot do without: a size for fixed arrays and fixed strings, and a
non-empty `MarshalType` or `MarshalTypeRef` for a custom marshaler. -/
def RequiredPresent (k : Int) (param : String → Option AttrValue) : Prop :=
  ((k = byValArray ∨ k = byValTStr) → (param "SizeConst").isSome) ∧
    (k = customMarshaler → NamesMarshaler (param "MarshalType") ∨ NamesMarshaler (param "MarshalTypeRef"))

/-- The conditions under which a directive renders. -/
structure Renders (d : Directive) : Prop where
  kind : RenderedKind d.kind
  read : ∀ p ∈ d.params, p.1 ∈ paramsRead d.kind
  required : RequiredPresent d.kind (List.lookup · d.params)
  fits : ∀ name v, d.params.lookup name = some v → ParamFits name v

/-- The last value a named parameter of an attribute is given. -/
def lastParam (a : Attribute) (name : String) : Option AttrValue :=
  (a.named.reverse.find? (·.name == name)).map (·.value)

/-- The conditions under which an attribute whose kind argument is `k` renders. -/
structure AttributeRenders (a : Attribute) (k : Int) : Prop where
  kind : RenderedKind k
  read : ∀ n ∈ a.named, n.name ∈ paramsRead k
  required : RequiredPresent k (lastParam a)
  fits : ∀ name v, lastParam a name = some v → ParamFits name v

/-! ### Parameters by name -/

/-- The parameters without those of the given names. -/
def dropNames (names : List String) (ps : Params) : Params :=
  ps.filter fun p => !names.contains p.1

theorem dropNames_nil (ps : Params) : dropNames [] ps = ps := by
  simp [dropNames]

theorem filter_dropNames (names : List String) (name : String) (ps : Params) :
    (dropNames names ps).filter (·.1 != name) = dropNames (names ++ [name]) ps := by
  unfold dropNames
  rw [List.filter_filter]
  apply List.filter_congr
  intro p _
  by_cases h : p.1 = name <;> simp [h]

theorem filter_ne_eq_dropNames (name : String) (ps : Params) :
    ps.filter (·.1 != name) = dropNames [name] ps := by
  have h := filter_dropNames [] name ps
  rwa [dropNames_nil, List.nil_append] at h

/-- Looking up past the first entry. -/
theorem lookup_cons_eq {β : Type} (p : String × β) (l : List (String × β)) (a : String) :
    (p :: l).lookup a = if a = p.1 then some p.2 else l.lookup a := by
  obtain ⟨k, b⟩ := p
  rw [List.lookup_cons]
  by_cases h : a = k
  · simp [h]
  · have hne : (a == k) = false := by simp [h]
    simp [h, hne]

theorem lookup_dropNames (names : List String) (ps : Params) {name : String} (h : name ∉ names) :
    (dropNames names ps).lookup name = ps.lookup name := by
  induction ps with
  | nil => rfl
  | cons p ps ih =>
      by_cases hp : p.1 ∈ names
      · have hne : name ≠ p.1 := by
          rintro rfl
          exact h hp
        simp [dropNames, hp, lookup_cons_eq, hne] at ih ⊢
        exact ih
      · simp [dropNames, hp, lookup_cons_eq] at ih ⊢
        rw [ih]

/-- An entry found by its key is one of the entries. -/
theorem mem_of_lookup_eq_some {α β : Type} [BEq α] [LawfulBEq α] {l : List (α × β)} {a : α}
    {b : β} (h : l.lookup a = some b) : (a, b) ∈ l := by
  obtain ⟨front, back, rfl, -⟩ := List.lookup_eq_some_iff.1 h
  simp

/-! ### Reading a value -/

theorem asInt_of_int {v : AttrValue} (hk : v.valueKind = .int) : v.asInt = .ok v.int := by
  simp [AttrValue.asInt, hk]

theorem asInt_of_not_int {v : AttrValue} (hk : v.valueKind ≠ .int) :
    v.asInt = .error (.reason ("expected int argument, got " ++ v.valueKind.word)) := by
  simp [AttrValue.asInt, hk]

/-- An integer read from a value is the value's own integer. -/
theorem asInt_eq_ok {v : AttrValue} {i : Int64} (h : v.asInt = .ok i) : i = v.int := by
  unfold AttrValue.asInt at h
  split at h
  · cases h
    rfl
  · cases h

/-- A text read from a value is the value's own text. -/
theorem asString_eq_ok {v : AttrValue} {s : String} (h : v.asString = .ok s) : s = v.str := by
  unfold AttrValue.asString at h
  split at h
  · cases h
    rfl
  · cases h

/-! ### Reading one parameter -/

/-- Reading the parameter `name` with the check `fits` from the parameters `ps` less those of
`names`, read before: it succeeds exactly when the parameter is absent or fits, and then leaves the
parameters less `name` too. -/
structure ReadsParam {α : Type} (r : Except Fault (α × Params)) (ps : Params) (names : List String)
    (name : String) (fits : AttrValue → Prop) : Prop where
  fits_of_ok : ∀ x rest, r = .ok (x, rest) →
    (∀ v, ps.lookup name = some v → fits v) ∧ rest = dropNames (names ++ [name]) ps
  ok_of_fits : (∀ v, ps.lookup name = some v → fits v) →
    ∃ x, r = .ok (x, dropNames (names ++ [name]) ps)

namespace ReadsParam

variable {α : Type} {r : Except Fault (α × Params)} {ps : Params} {names : List String}
  {name : String} {fits : AttrValue → Prop}

/-- An absent parameter is read as nothing, and the others are left. -/
theorem of_absent {x : α} (hl : ps.lookup name = none)
    (hr : r = .ok (x, dropNames (names ++ [name]) ps)) : ReadsParam r ps names name fits where
  fits_of_ok := by
    intro y rest h
    rw [hr, Except.ok.injEq, Prod.mk.injEq] at h
    exact ⟨fun v hv => by simp [hl] at hv, h.2.symm⟩
  ok_of_fits := fun _ => ⟨x, hr⟩

/-- A parameter that fits is read, and the others are left. -/
theorem of_fits {x : α} {v : AttrValue} (hl : ps.lookup name = some v) (hv : fits v)
    (hr : r = .ok (x, dropNames (names ++ [name]) ps)) : ReadsParam r ps names name fits where
  fits_of_ok := by
    intro y rest h
    rw [hr, Except.ok.injEq, Prod.mk.injEq] at h
    refine ⟨fun w hw => ?_, h.2.symm⟩
    rw [hl, Option.some.injEq] at hw
    exact hw ▸ hv
  ok_of_fits := fun _ => ⟨x, hr⟩

/-- A parameter that does not fit makes the reading fail. -/
theorem of_misfit {v : AttrValue} (hl : ps.lookup name = some v) (hv : ¬ fits v)
    (hr : ∃ f, r = .error f) : ReadsParam r ps names name fits where
  fits_of_ok := by
    intro y rest h
    obtain ⟨f, hf⟩ := hr
    rw [hf] at h
    cases h
  ok_of_fits := fun h => absurd (h v hl) hv

end ReadsParam

theorem readsParam_takeCount (ps : Params) (names : List String) (name : String)
    (hname : name ∉ names) :
    ReadsParam (takeCount (dropNames names ps) name) ps names name CountFits := by
  unfold takeCount Params.take
  rw [lookup_dropNames names ps hname, filter_dropNames]
  cases hl : ps.lookup name with
  | none => exact .of_absent hl rfl
  | some v =>
      by_cases hfits : CountFits v
      · have hread := asInt_of_int hfits.1
        exact .of_fits (x := some v.int.toInt) hl hfits (by simp [hread, Int.not_lt.2 hfits.2])
      · refine .of_misfit hl hfits ?_
        by_cases hk : v.valueKind = .int
        · have hread := asInt_of_int hk
          have hneg : v.int.toInt < 0 := Int.not_le.1 fun hn => hfits ⟨hk, hn⟩
          simp [hread, hneg]
        · have hread := asInt_of_not_int hk
          simp [hread]

theorem readsParam_takeText (ps : Params) (names : List String) (name : String)
    (hname : name ∉ names) :
    ReadsParam (takeText (dropNames names ps) name) ps names name TextFits := by
  unfold takeText Params.take
  rw [lookup_dropNames names ps hname, filter_dropNames]
  cases hl : ps.lookup name with
  | none => exact .of_absent hl rfl
  | some v =>
      by_cases hfits : TextFits v
      · have hread : v.asString = .ok v.str := by
          simp [AttrValue.asString, hfits.elim (fun h => Or.inl h) fun h => Or.inr h]
        exact .of_fits (x := some v.str) hl hfits (by simp [hread])
      · have hread : v.asString = .error (.reason ("expected string argument, got " ++
            v.valueKind.word)) := by
          simp only [TextFits, not_or] at hfits
          simp [AttrValue.asString, hfits.1, hfits.2]
        exact .of_misfit hl hfits (by simp [hread])

/-- A text parameter that is read is the parameter's text. -/
theorem takeText_value {ps rest : Params} {name : String} {x : Option String}
    (h : takeText ps name = .ok (x, rest)) : x = (ps.lookup name).map (·.str) := by
  unfold takeText Params.take at h
  cases hl : ps.lookup name with
  | none =>
      rw [hl] at h
      simp only [Except.ok.injEq, Prod.mk.injEq] at h
      exact h.1.symm
  | some v =>
      rw [hl] at h
      cases hread : v.asString with
      | error e => simp [hread] at h
      | ok s =>
          have hs := asString_eq_ok hread
          simp only [hread, Except.ok.injEq, Prod.mk.injEq] at h
          simp [← h.1, hs]

/-- A count parameter that is read is the parameter's integer. -/
theorem takeCount_value {ps rest : Params} {name : String} {x : Option Int}
    (h : takeCount ps name = .ok (x, rest)) : x = (ps.lookup name).map (·.int.toInt) := by
  unfold takeCount Params.take at h
  cases hl : ps.lookup name with
  | none =>
      rw [hl] at h
      simp only [Except.ok.injEq, Prod.mk.injEq] at h
      exact h.1.symm
  | some v =>
      rw [hl] at h
      cases hread : v.asInt with
      | error e => simp [hread] at h
      | ok i =>
          have hi := asInt_eq_ok hread
          by_cases hneg : i.toInt < 0
          · simp [hread, hneg] at h
          · simp only [hread, hneg, if_false, Except.ok.injEq, Prod.mk.injEq] at h
            simp [← h.1, hi]

/-- A count read gives a number exactly when the parameter is there. -/
theorem takeCount_isSome {ps rest : Params} {name : String} {x : Option Int}
    (h : takeCount ps name = .ok (x, rest)) : x.isSome = (ps.lookup name).isSome := by
  rw [takeCount_value h, Option.isSome_map]

/-! ### Element kinds and variant types -/

instance (k : Int) : Decidable (BareKind k) := inferInstanceAs (Decidable (_ ∨ _ ∨ _ ∨ _))

/-- A variant type carries no unknown flag exactly when it lies in the fifteen low bits: the
flags are bits twelve to fourteen. -/
theorem hasUnknownFlags_eq_false_iff (v : Int) :
    hasUnknownFlags v = false ↔ 0 ≤ v ∧ v < 0x8000 := by
  unfold hasUnknownFlags variantModifiers variantBase hasFlag
  -- one case per combination of the three known flags, each plain arithmetic
  split <;> split <;> split <;> simp_all <;> omega

/-- Only the empty variant type has an empty name. -/
theorem variantNames_empty {b : Int} {name : String} (h : variantNames.lookup b = some name) :
    name = "" ↔ b = 0 := by
  have hall : variantNames.all (fun p => (p.2 == "") == (p.1 == 0)) = true := by decide
  have hpair := List.all_eq_true.1 hall _ (mem_of_lookup_eq_some h)
  rwa [beq_iff_eq, Bool.eq_iff_iff, beq_iff_eq, beq_iff_eq] at hpair

/-- A safe array's element variant renders exactly when it carries only the known flags over a
known base, and flags only over a base that is not empty. -/
theorem variantText_ok_iff (v : Int) : (∃ t, variantText v = .ok t) ↔ VariantRenders v := by
  unfold variantText VariantRenders
  cases hflags : hasUnknownFlags v with
  | true =>
      have hout : ¬ (0 ≤ v ∧ v < 0x8000) := by
        rw [← hasUnknownFlags_eq_false_iff, hflags]
        simp
      simp only [if_true, reduceCtorEq, exists_false, false_iff]
      exact fun ⟨h0, h1, _⟩ => hout ⟨h0, h1⟩
  | false =>
      obtain ⟨h0, h1⟩ := (hasUnknownFlags_eq_false_iff v).1 hflags
      have hmod : variantModifiers v ≠ 0 ↔ 0x1000 ≤ v := by
        unfold variantModifiers variantBase
        omega
      cases hname : variantNames.lookup (variantBase v) with
      | none =>
          simp only [variantBase] at hname
          simp [hname]
      | some name =>
          have hempty := variantNames_empty hname
          simp only [variantBase] at hname hempty
          have hcond : (decide (variantModifiers v ≠ 0) && decide (name = "")) = true ↔
              0x1000 ≤ v ∧ v % 0x1000 = 0 := by
            simp [hmod, hempty]
          simp only [Bool.false_eq_true, if_false]
          by_cases hbad : 0x1000 ≤ v ∧ v % 0x1000 = 0
          · rw [if_pos (hcond.2 hbad)]
            simp only [reduceCtorEq, exists_false, false_iff]
            exact fun ⟨_, _, _, hbase⟩ => hbase hbad.1 hbad.2
          · rw [if_neg (mt hcond.1 hbad)]
            simp only [Except.ok.injEq, exists_eq', hname, Option.isSome_some, true_iff]
            exact ⟨h0, h1, trivial, fun hv hz => hbad ⟨hv, hz⟩⟩

/-- An element kind renders exactly when it is a kind that needs no parameters. -/
theorem elementText_ok_iff (k : Int) : (∃ t, elementText k = .ok t) ↔ BareKind k := by
  unfold elementText
  -- the three kinds that need parameters fail without them
  by_cases h1 : k = byValTStr
  · subst h1
    simp only [if_true, reduceCtorEq, exists_false, false_iff]
    decide
  by_cases h2 : k = byValArray
  · subst h2
    simp only [h1, if_true, if_false, reduceCtorEq, exists_false, false_iff]
    decide
  by_cases h3 : k = customMarshaler
  · subst h3
    simp only [h1, h2, if_true, if_false, reduceCtorEq, exists_false, false_iff]
    decide
  simp only [h1, h2, h3, if_false, BareKind]
  cases hs : simpleNative.lookup k with
  | some kw => simp
  | none =>
      cases hi : interfaceNative.lookup k with
      | some kw => simp
      | none =>
          by_cases h4 : k = lpArray
          · simp [h4]
          by_cases h5 : k = safeArray
          · simp [h5, safeArray, lpArray]
          simp [h4, h5]

theorem readsParam_takeElement (kind : Int) (ps : Params) (names : List String)
    (hname : "ArraySubType" ∉ names) :
    ReadsParam (takeElement kind (dropNames names ps)) ps names "ArraySubType" ElementFits := by
  unfold takeElement Params.take
  rw [lookup_dropNames names ps hname, filter_dropNames]
  cases hl : ps.lookup "ArraySubType" with
  | none => exact .of_absent hl rfl
  | some v =>
      by_cases hk : v.valueKind = .int
      · have hread := asInt_of_int hk
        by_cases hbare : BareKind v.int.toInt
        · obtain ⟨t, ht⟩ := (elementText_ok_iff _).2 hbare
          exact .of_fits (x := t) hl ⟨hk, hbare⟩ (by simp [hread, ht])
        · refine .of_misfit hl (fun h => hbare h.2) ?_
          cases ht : elementText v.int.toInt with
          | ok t => exact absurd ((elementText_ok_iff _).1 ⟨t, ht⟩) hbare
          | error e => simp [hread, ht]
      · have hread := asInt_of_not_int hk
        exact .of_misfit hl (fun h => hk h.1) (by simp [hread])

/-! ### Each kind's reading -/

/-- Every parameter the kind reads that is present holds a value that fits. -/
def ReadsFit (k : Int) (ps : Params) : Prop :=
  ∀ name ∈ paramsRead k, ∀ v, ps.lookup name = some v → ParamFits name v

/-- A read that succeeds inside a bind: the parameter fits, and the rest of the computation
succeeded on the parameters the read left. -/
theorem ReadsParam.of_bind_ok {α β : Type} {r : Except Fault (α × Params)} {ps : Params}
    {names : List String} {name : String} {fits : AttrValue → Prop}
    {g : α × Params → Except Fault β} {b : β} (h : ReadsParam r ps names name fits)
    (hb : (r >>= g) = .ok b) :
    (∀ v, ps.lookup name = some v → fits v) ∧ ∃ x, r = .ok (x, dropNames (names ++ [name]) ps) ∧
      g (x, dropNames (names ++ [name]) ps) = .ok b := by
  obtain ⟨⟨x, rest⟩, hr, hg⟩ := except_bind_eq_ok hb
  obtain ⟨hfits, rfl⟩ := h.fits_of_ok x rest hr
  exact ⟨hfits, x, hr, hg⟩

theorem readsFit_interface {k : Int} (hi : (interfaceNative.lookup k).isSome) (ps : Params) :
    ReadsFit k ps ↔ ∀ v, ps.lookup "IidParameterIndex" = some v → CountFits v := by
  simp [ReadsFit, paramsRead, hi, ParamFits, countParams]

theorem readsFit_lpArray (ps : Params) :
    ReadsFit lpArray ps ↔ (∀ v, ps.lookup "ArraySubType" = some v → ElementFits v) ∧
      (∀ v, ps.lookup "SizeConst" = some v → CountFits v) ∧
      (∀ v, ps.lookup "SizeParamIndex" = some v → CountFits v) := by
  simp [ReadsFit, paramsRead, ParamFits, countParams, textParams, lpArray, interfaceNative]

theorem readsFit_safeArray (ps : Params) :
    ReadsFit safeArray ps ↔ ∀ v, ps.lookup "SafeArraySubType" = some v → VariantFits v := by
  simp [ReadsFit, paramsRead, ParamFits, countParams, textParams, lpArray, safeArray,
    interfaceNative]

theorem readsFit_byValArray (ps : Params) :
    ReadsFit byValArray ps ↔ (∀ v, ps.lookup "SizeConst" = some v → CountFits v) ∧
      (∀ v, ps.lookup "ArraySubType" = some v → ElementFits v) := by
  simp [ReadsFit, paramsRead, ParamFits, countParams, textParams, lpArray, safeArray, byValArray,
    interfaceNative]

theorem readsFit_byValTStr (ps : Params) :
    ReadsFit byValTStr ps ↔ ∀ v, ps.lookup "SizeConst" = some v → CountFits v := by
  simp [ReadsFit, paramsRead, ParamFits, countParams, lpArray, safeArray, byValArray, byValTStr,
    interfaceNative]

theorem readsFit_customMarshaler (ps : Params) :
    ReadsFit customMarshaler ps ↔ (∀ v, ps.lookup "MarshalType" = some v → TextFits v) ∧
      (∀ v, ps.lookup "MarshalTypeRef" = some v → TextFits v) ∧
      (∀ v, ps.lookup "MarshalCookie" = some v → TextFits v) := by
  simp [ReadsFit, paramsRead, ParamFits, countParams, textParams, lpArray, safeArray, byValArray,
    byValTStr, customMarshaler, interfaceNative]

/-- Arrays passed by pointer read their element kind, size and size index, all optional. -/
theorem nativeText_lpArray (ps rest : Params) :
    (∃ text, nativeText ⟨lpArray, ps⟩ = .ok (text, rest)) ↔
      ReadsFit lpArray ps ∧ rest = dropNames (paramsRead lpArray) ps := by
  have e := readsParam_takeElement lpArray ps [] (by simp)
  have c1 := readsParam_takeCount ps ["ArraySubType"] "SizeConst" (by simp)
  have c2 := readsParam_takeCount ps ["ArraySubType", "SizeConst"] "SizeParamIndex" (by simp)
  rw [dropNames_nil] at e
  have hs : simpleNative.lookup lpArray = none := rfl
  have hi : interfaceNative.lookup lpArray = none := rfl
  rw [readsFit_lpArray]
  simp only [nativeText, hs, hi, if_true]
  constructor
  · rintro ⟨text, h⟩
    obtain ⟨f1, elem, -, h⟩ := e.of_bind_ok h
    obtain ⟨f2, size, -, h⟩ := c1.of_bind_ok h
    obtain ⟨f3, index, -, h⟩ := c2.of_bind_ok h
    simp only [pure, Except.pure, Except.ok.injEq, Prod.mk.injEq] at h
    exact ⟨⟨f1, f2, f3⟩, h.2.symm⟩
  · rintro ⟨⟨f1, f2, f3⟩, rfl⟩
    obtain ⟨elem, h1⟩ := e.ok_of_fits f1
    obtain ⟨size, h2⟩ := c1.ok_of_fits f2
    obtain ⟨index, h3⟩ := c2.ok_of_fits f3
    rw [h1]
    simp only [except_ok_bind, List.nil_append]
    rw [h2]
    simp only [except_ok_bind, List.cons_append, List.nil_append]
    rw [h3]
    exact ⟨_, rfl⟩

/-- Safe arrays read their element variant type, which is optional. -/
theorem readsParam_safeArray (ps : Params) :
    ReadsParam (nativeText ⟨safeArray, ps⟩) ps [] "SafeArraySubType" VariantFits := by
  have hs : simpleNative.lookup safeArray = none := rfl
  have hi : interfaceNative.lookup safeArray = none := rfl
  have hne : safeArray ≠ lpArray := by decide
  simp only [nativeText, hs, hi, hne, if_false, if_true, Params.take]
  rw [filter_ne_eq_dropNames]
  cases hl : ps.lookup "SafeArraySubType" with
  | none => exact .of_absent hl rfl
  | some v =>
      by_cases hk : v.valueKind = .int
      · have hread := asInt_of_int hk
        by_cases hvariant : VariantRenders v.int.toInt
        · obtain ⟨t, ht⟩ := (variantText_ok_iff _).2 hvariant
          exact .of_fits (x := "safearray" ++ (if t = "" then "" else " " ++ t)) hl ⟨hk, hvariant⟩
            (by simp [hread, ht])
        · refine .of_misfit hl (fun h => hvariant h.2) ?_
          cases ht : variantText v.int.toInt with
          | ok t => exact absurd ((variantText_ok_iff _).1 ⟨t, ht⟩) hvariant
          | error e => simp [hread, ht]
      · have hread := asInt_of_not_int hk
        exact .of_misfit hl (fun h => hk h.1) (by simp [hread])

/-- Safe arrays render exactly when their element variant type, if given, renders. -/
theorem nativeText_safeArray (ps rest : Params) :
    (∃ text, nativeText ⟨safeArray, ps⟩ = .ok (text, rest)) ↔
      ReadsFit safeArray ps ∧ rest = dropNames (paramsRead safeArray) ps := by
  have r := readsParam_safeArray ps
  rw [readsFit_safeArray]
  constructor
  · rintro ⟨text, h⟩
    exact r.fits_of_ok text rest h
  · rintro ⟨hfits, rfl⟩
    exact r.ok_of_fits hfits

/-- Fixed strings need their size. -/
theorem nativeText_byValTStr (ps rest : Params) :
    (∃ text, nativeText ⟨byValTStr, ps⟩ = .ok (text, rest)) ↔
      (ps.lookup "SizeConst").isSome ∧ ReadsFit byValTStr ps ∧
        rest = dropNames (paramsRead byValTStr) ps := by
  have c := readsParam_takeCount ps [] "SizeConst" (by simp)
  rw [dropNames_nil] at c
  have hs : simpleNative.lookup byValTStr = none := rfl
  have hi : interfaceNative.lookup byValTStr = none := rfl
  have hne : byValTStr ≠ lpArray ∧ byValTStr ≠ safeArray ∧ byValTStr ≠ byValArray := by decide
  rw [readsFit_byValTStr]
  simp only [nativeText, hs, hi, hne, if_false, if_true]
  constructor
  · rintro ⟨text, h⟩
    obtain ⟨hfits, size, hsize, h⟩ := c.of_bind_ok h
    cases size with
    | none => simp at h
    | some n =>
        simp only [pure, Except.pure, Except.ok.injEq, Prod.mk.injEq] at h
        refine ⟨?_, hfits, h.2.symm⟩
        rw [← takeCount_isSome hsize]
        rfl
  · rintro ⟨hpresent, hfits, rfl⟩
    obtain ⟨size, hsize⟩ := c.ok_of_fits hfits
    obtain ⟨n, rfl⟩ := Option.isSome_iff_exists.1 ((takeCount_isSome hsize).trans hpresent)
    rw [hsize]
    exact ⟨_, rfl⟩

/-- Fixed arrays need their size, and read their element kind, which is optional. -/
theorem nativeText_byValArray (ps rest : Params) :
    (∃ text, nativeText ⟨byValArray, ps⟩ = .ok (text, rest)) ↔
      (ps.lookup "SizeConst").isSome ∧ ReadsFit byValArray ps ∧
        rest = dropNames (paramsRead byValArray) ps := by
  have c := readsParam_takeCount ps [] "SizeConst" (by simp)
  have e := readsParam_takeElement byValArray ps ["SizeConst"] (by simp)
  rw [dropNames_nil] at c
  have hs : simpleNative.lookup byValArray = none := rfl
  have hi : interfaceNative.lookup byValArray = none := rfl
  have hne : byValArray ≠ lpArray ∧ byValArray ≠ safeArray := by decide
  rw [readsFit_byValArray]
  simp only [nativeText, hne, hs, hi, if_false, if_true]
  constructor
  · rintro ⟨text, h⟩
    obtain ⟨f1, size, hsize, h⟩ := c.of_bind_ok h
    cases size with
    | none => simp at h
    | some n =>
        obtain ⟨f2, elem, -, h⟩ := e.of_bind_ok h
        simp only [pure, Except.pure, Except.ok.injEq, Prod.mk.injEq] at h
        refine ⟨?_, ⟨f1, f2⟩, h.2.symm⟩
        rw [← takeCount_isSome hsize]
        rfl
  · rintro ⟨hpresent, ⟨f1, f2⟩, rfl⟩
    obtain ⟨size, hsize⟩ := c.ok_of_fits f1
    obtain ⟨elem, helem⟩ := e.ok_of_fits f2
    obtain ⟨n, rfl⟩ := Option.isSome_iff_exists.1 ((takeCount_isSome hsize).trans hpresent)
    rw [hsize]
    simp only [except_ok_bind, List.nil_append]
    rw [helem]
    exact ⟨_, rfl⟩

/-- The name a custom marshaler is written with: `MarshalType` unless it is absent or empty,
else `MarshalTypeRef`. -/
theorem chosen_marshaler_named (tn tr : Option AttrValue) :
    (∃ n, (match tn.map (·.str) with
        | some n => if n = "" then tr.map (·.str) else some n
        | none => tr.map (·.str)) = some n ∧ n ≠ "") ↔
      NamesMarshaler tn ∨ NamesMarshaler tr := by
  unfold NamesMarshaler
  cases tn with
  | none => cases tr <;> simp
  | some x =>
      by_cases hx : x.str = ""
      · cases tr <;> simp [hx]
      · simp [hx]

/-- Custom marshalers need a non-empty `MarshalType` or `MarshalTypeRef`, and read a cookie, which
is optional. -/
theorem nativeText_customMarshaler (ps rest : Params) :
    (∃ text, nativeText ⟨customMarshaler, ps⟩ = .ok (text, rest)) ↔
      (NamesMarshaler (ps.lookup "MarshalType") ∨ NamesMarshaler (ps.lookup "MarshalTypeRef")) ∧
        ReadsFit customMarshaler ps ∧ rest = dropNames (paramsRead customMarshaler) ps := by
  have t1 := readsParam_takeText ps [] "MarshalType" (by simp)
  have t2 := readsParam_takeText ps ["MarshalType"] "MarshalTypeRef" (by simp)
  have t3 := readsParam_takeText ps ["MarshalType", "MarshalTypeRef"] "MarshalCookie" (by simp)
  rw [dropNames_nil] at t1
  have hs : simpleNative.lookup customMarshaler = none := rfl
  have hi : interfaceNative.lookup customMarshaler = none := rfl
  have hne : customMarshaler ≠ lpArray ∧ customMarshaler ≠ safeArray ∧
      customMarshaler ≠ byValArray ∧ customMarshaler ≠ byValTStr := by decide
  rw [readsFit_customMarshaler, ← chosen_marshaler_named]
  simp only [nativeText, hne, hs, hi, if_false, if_true]
  constructor
  · rintro ⟨text, h⟩
    obtain ⟨f1, typeName, htn, h⟩ := t1.of_bind_ok h
    obtain ⟨f2, typeRef, htr, h⟩ := t2.of_bind_ok h
    have hname := takeText_value htn
    have href := takeText_value htr
    rw [lookup_dropNames ["MarshalType"] ps (by simp)] at href
    subst hname href
    split at h
    · rename_i n hchosen
      split at h
      · simp at h
      · rename_i hn
        obtain ⟨f3, cookie, -, h⟩ := t3.of_bind_ok h
        simp only [pure, Except.pure, Except.ok.injEq, Prod.mk.injEq] at h
        exact ⟨⟨n, hchosen, hn⟩, ⟨f1, f2, f3⟩, h.2.symm⟩
    · simp at h
  · rintro ⟨⟨n, hchosen, hn⟩, ⟨f1, f2, f3⟩, rfl⟩
    obtain ⟨typeName, h1⟩ := t1.ok_of_fits f1
    obtain ⟨typeRef, h2⟩ := t2.ok_of_fits f2
    obtain ⟨cookie, h3⟩ := t3.ok_of_fits f3
    have hname := takeText_value h1
    have href := takeText_value h2
    rw [lookup_dropNames ["MarshalType"] ps (by simp)] at href
    subst hname href
    rw [h1]
    simp only [except_ok_bind, List.nil_append]
    rw [h2]
    simp only [except_ok_bind]
    -- the writer's choice of name is the one `chosen_marshaler_named` describes
    split
    · rename_i n' hchosen'
      have hsame : n' = n := Option.some.inj (hchosen'.symm.trans hchosen)
      subst hsame
      simp only [hn, if_false, List.cons_append, List.nil_append]
      rw [h3]
      exact ⟨_, rfl⟩
    · rename_i hnone
      exact absurd (hnone.symm.trans hchosen) (by simp)

/-- The kinds written as one keyword are none of the others. -/
theorem simple_kind_apart {k : Int} {kw : String} (hkw : simpleNative.lookup k = some kw) :
    (interfaceNative.lookup k).isSome = false ∧ k ≠ lpArray ∧ k ≠ safeArray ∧ k ≠ byValArray ∧
      k ≠ byValTStr ∧ k ≠ customMarshaler := by
  have hall : simpleNative.all (fun p => (interfaceNative.lookup p.1).isNone && p.1 != lpArray &&
      p.1 != safeArray && p.1 != byValArray && p.1 != byValTStr && p.1 != customMarshaler) = true := by
    decide
  have hk := List.all_eq_true.1 hall _ (mem_of_lookup_eq_some hkw)
  simp only [Bool.and_eq_true, bne_iff_ne, ne_eq, Option.isNone_iff_eq_none] at hk
  obtain ⟨⟨⟨⟨⟨hi, h1⟩, h2⟩, h3⟩, h4⟩, h5⟩ := hk
  simp [hi, h1, h2, h3, h4, h5]

/-- The interface kinds are none of the five kinds with parameters of their own. -/
theorem interface_kind_apart {k : Int} {kw : String} (hkw : interfaceNative.lookup k = some kw) :
    k ≠ lpArray ∧ k ≠ safeArray ∧ k ≠ byValArray ∧ k ≠ byValTStr ∧ k ≠ customMarshaler := by
  have hall : interfaceNative.all (fun p => p.1 != lpArray && p.1 != safeArray &&
      p.1 != byValArray && p.1 != byValTStr && p.1 != customMarshaler) = true := by
    decide
  have hk := List.all_eq_true.1 hall _ (mem_of_lookup_eq_some hkw)
  simp only [Bool.and_eq_true, bne_iff_ne, ne_eq] at hk
  obtain ⟨⟨⟨⟨h1, h2⟩, h3⟩, h4⟩, h5⟩ := hk
  exact ⟨h1, h2, h3, h4, h5⟩

/-- A kind with no parameter of its own requires none. -/
theorem requiredPresent_of_apart {k : Int} (param : String → Option AttrValue)
    (h1 : k ≠ byValArray) (h2 : k ≠ byValTStr) (h3 : k ≠ customMarshaler) :
    RequiredPresent k param := by
  unfold RequiredPresent
  exact ⟨fun h => absurd h (by simp [h1, h2]), fun h => absurd h h3⟩

/-- Kinds written as one keyword read nothing. -/
theorem nativeText_simple {k : Int} {kw : String} (hs : simpleNative.lookup k = some kw)
    (ps rest : Params) :
    (∃ text, nativeText ⟨k, ps⟩ = .ok (text, rest)) ↔ rest = dropNames (paramsRead k) ps := by
  have hread : paramsRead k = [] := by
    obtain ⟨hi, h1, h2, h3, h4, h5⟩ := simple_kind_apart hs
    simp [paramsRead, hi, h1, h2, h3, h4, h5]
  rw [hread, dropNames_nil]
  simp only [nativeText, hs, Except.ok.injEq, Prod.mk.injEq]
  exact ⟨fun ⟨_, _, h⟩ => h.symm, fun h => ⟨kw, rfl, h.symm⟩⟩

/-- Interface kinds read the index of the parameter holding the interface's identifier, which is
optional. -/
theorem nativeText_interface {k : Int} {kw : String} (hs : simpleNative.lookup k = none)
    (hi : interfaceNative.lookup k = some kw) (ps rest : Params) :
    (∃ text, nativeText ⟨k, ps⟩ = .ok (text, rest)) ↔
      ReadsFit k ps ∧ rest = dropNames (paramsRead k) ps := by
  have c := readsParam_takeCount ps [] "IidParameterIndex" (by simp)
  rw [dropNames_nil] at c
  have hread : paramsRead k = ["IidParameterIndex"] := by simp [paramsRead, hi]
  rw [readsFit_interface (by simp [hi]), hread]
  simp only [nativeText, hs, hi]
  constructor
  · rintro ⟨text, h⟩
    obtain ⟨hfits, idx, -, h⟩ := c.of_bind_ok h
    cases idx <;>
      · simp only [pure, Except.pure, Except.ok.injEq, Prod.mk.injEq] at h
        exact ⟨hfits, h.2.symm⟩
  · rintro ⟨hfits, rfl⟩
    obtain ⟨idx, h⟩ := c.ok_of_fits hfits
    rw [h]
    cases idx <;> exact ⟨_, rfl⟩

/-- What reading a directive's parameters needs: a kind the writer renders, the parameters it
cannot do without, and a value that fits for each parameter it reads; it then leaves the
parameters the kind does not read. -/
theorem nativeText_ok_iff (k : Int) (ps rest : Params) :
    (∃ text, nativeText ⟨k, ps⟩ = .ok (text, rest)) ↔
      RenderedKind k ∧ RequiredPresent k (List.lookup · ps) ∧ ReadsFit k ps ∧
        rest = dropNames (paramsRead k) ps := by
  cases hs : simpleNative.lookup k with
  | some kw =>
      obtain ⟨hi, h4, h5, h1, h2, h3⟩ := simple_kind_apart hs
      have hfit : ReadsFit k ps := by
        intro name hname
        simp [paramsRead, hi, h4, h5, h1, h2, h3] at hname
      rw [nativeText_simple hs]
      simp [RenderedKind, hs, requiredPresent_of_apart _ h1 h2 h3, hfit]
  | none =>
      cases hi : interfaceNative.lookup k with
      | some kw =>
          obtain ⟨-, -, h1, h2, h3⟩ := interface_kind_apart hi
          rw [nativeText_interface hs hi]
          simp [RenderedKind, hi, requiredPresent_of_apart _ h1 h2 h3]
      | none =>
          -- the five kinds with parameters of their own, and the kinds the writer cannot render
          by_cases h1 : k = lpArray
          · subst h1
            rw [nativeText_lpArray]
            simp [RenderedKind, RequiredPresent, lpArray, byValArray, byValTStr, customMarshaler]
          by_cases h2 : k = safeArray
          · subst h2
            rw [nativeText_safeArray]
            simp [RenderedKind, RequiredPresent, safeArray, byValArray, byValTStr, customMarshaler]
          by_cases h3 : k = byValArray
          · subst h3
            rw [nativeText_byValArray]
            simp [RenderedKind, RequiredPresent, byValArray, customMarshaler]
          by_cases h4 : k = byValTStr
          · subst h4
            rw [nativeText_byValTStr]
            simp [RenderedKind, RequiredPresent, byValTStr, customMarshaler]
          by_cases h5 : k = customMarshaler
          · subst h5
            rw [nativeText_customMarshaler]
            simp [RenderedKind, RequiredPresent, customMarshaler, byValArray, byValTStr]
          have hnot : ¬ RenderedKind k := by simp [RenderedKind, hs, hi, h1, h2, h3, h4, h5]
          simp only [hnot, false_and, iff_false]
          simp [nativeText, hs, hi, h1, h2, h3, h4, h5]

/-! ### Directives and attributes -/

theorem dropNames_eq_nil_iff (names : List String) (ps : Params) :
    dropNames names ps = [] ↔ ∀ p ∈ ps, p.1 ∈ names := by
  simp [dropNames, List.filter_eq_nil_iff]

/-- A directive renders exactly when its kind is one the writer renders, every parameter is one
the kind reads, the parameters the kind cannot do without are there, and every parameter fits:
after the kind's reads nothing may be left over. -/
theorem render_ok_iff (d : Directive) : (∃ text, d.render = .ok text) ↔ Renders d := by
  obtain ⟨k, ps⟩ := d
  unfold Directive.render
  constructor
  · rintro ⟨text, h⟩
    obtain ⟨⟨t, rest⟩, hnative, h⟩ := except_bind_eq_ok h
    obtain ⟨hkind, hrequired, hfit, hrest⟩ := (nativeText_ok_iff k ps rest).1 ⟨t, hnative⟩
    have hleft : rest = [] := by
      cases rest with
      | nil => rfl
      | cons p r => simp [leftoverFault] at h
    rw [hleft, eq_comm, dropNames_eq_nil_iff] at hrest
    refine ⟨hkind, hrest, hrequired, fun name v hv => ?_⟩
    have hmem := mem_of_lookup_eq_some hv
    exact hfit name (hrest _ hmem) v hv
  · rintro ⟨hkind, hread, hrequired, hfits⟩
    obtain ⟨t, ht⟩ := (nativeText_ok_iff k ps _).2
      ⟨hkind, hrequired, fun name _ v hv => hfits name v hv, rfl⟩
    have hleft : dropNames (paramsRead k) ps = [] := (dropNames_eq_nil_iff _ _).2 hread
    rw [ht]
    simp only [except_ok_bind, hleft, leftoverFault]
    exact ⟨t, rfl⟩

/-- The kinds an array element may name are exactly those whose directive renders with no
parameters. -/
theorem bareKind_iff_render (k : Int) : BareKind k ↔ ∃ text, Directive.render ⟨k, []⟩ = .ok text := by
  rw [render_ok_iff]
  constructor
  · intro hbare
    have hnot : k ≠ byValArray ∧ k ≠ byValTStr ∧ k ≠ customMarshaler := by
      rcases hbare with hs | hi | rfl | rfl
      · obtain ⟨kw, hkw⟩ := Option.isSome_iff_exists.1 hs
        obtain ⟨-, -, -, h1, h2, h3⟩ := simple_kind_apart hkw
        exact ⟨h1, h2, h3⟩
      · obtain ⟨kw, hkw⟩ := Option.isSome_iff_exists.1 hi
        obtain ⟨-, -, h1, h2, h3⟩ := interface_kind_apart hkw
        exact ⟨h1, h2, h3⟩
      · decide
      · decide
    refine ⟨?_, by simp, requiredPresent_of_apart _ hnot.1 hnot.2.1 hnot.2.2, by simp⟩
    rcases hbare with h | h | h | h
    · exact .inl h
    · exact .inr (.inl h)
    · exact .inr (.inr (.inl h))
    · exact .inr (.inr (.inr (.inl h)))
  · rintro ⟨hkind, -, hrequired, -⟩
    -- with no parameters, the kinds that need one cannot render
    simp only [RequiredPresent, List.lookup_nil, Option.isSome_none, Bool.false_eq_true, imp_false,
      NamesMarshaler, reduceCtorEq, false_and, exists_false, or_self] at hrequired
    obtain ⟨hsize, hcustom⟩ := hrequired
    rcases hkind with h | h | h | h | h | h | h
    · exact .inl h
    · exact .inr (.inl h)
    · exact .inr (.inr (.inl h))
    · exact .inr (.inr (.inr h))
    · exact absurd (.inl h) hsize
    · exact absurd (.inr h) hsize
    · exact absurd h hcustom

/-- Recording a parameter: its name now gives the new value, every other name what it gave. -/
theorem lookup_set (ps : Params) (name n : String) (v : AttrValue) :
    (ps.set name v).lookup n = if n = name then some v else ps.lookup n := by
  unfold Params.set
  split
  · -- the name is recorded already: its entries take the new value in place
    rename_i hany
    induction ps with
    | nil => simp at hany
    | cons p ps ih =>
        simp only [List.map_cons, lookup_cons_eq]
        by_cases hp : p.1 = name
        · by_cases hn : n = name
          · simp [hp, hn]
          · have hkey : n ≠ p.1 := hp ▸ hn
            simp only [hp, beq_self_eq_true, if_true, hn, if_false]
            by_cases hrest : ps.any (·.1 == name) = true
            · rw [ih hrest, if_neg hn]
            · -- no later entry carries the name: the rest is left as it was
              have hsame : ps.map (fun p => if (p.1 == name) = true then (name, v) else p) = ps := by
                rw [List.map_congr_left (g := id), List.map_id]
                intro q hq
                have hq' : (q.1 == name) = false := by
                  simp only [List.any_eq_true, beq_iff_eq, not_exists, not_and] at hrest
                  simpa using hrest q hq
                simp [hq']
              rw [hsame]
        · have hrest : ps.any (·.1 == name) = true := by simpa [hp] using hany
          have hne : (p.1 == name) = false := by simp [hp]
          simp only [hne, Bool.false_eq_true, if_false]
          by_cases hn : n = p.1
          · have hnn : n ≠ name := fun h => hp (hn ▸ h)
            simp only [if_pos hn, if_neg hnn]
          · simp only [hn, if_false]
            exact ih hrest
  · -- a new name goes at the end
    rename_i hnone
    induction ps with
    | nil => by_cases hn : n = name <;> simp [lookup_cons_eq, hn]
    | cons p ps ih =>
        have hp : p.1 ≠ name := by simp at hnone; exact hnone.1
        have hrest : ¬ ps.any (·.1 == name) = true := by simpa [hp] using hnone
        simp only [List.cons_append, lookup_cons_eq]
        by_cases hn : n = p.1
        · have hne : n ≠ name := fun h => hp (hn ▸ h)
          simp only [if_pos hn, if_neg hne]
        · simp only [hn, if_false]
          exact ih hrest

/-- A recorded parameter is an earlier one or carries the name just recorded. -/
theorem key_of_mem_set {ps : Params} {name : String} {v : AttrValue} {p : String × AttrValue}
    (h : p ∈ ps.set name v) : p ∈ ps ∨ p.1 = name := by
  unfold Params.set at h
  split at h
  · obtain ⟨q, hq, rfl⟩ := List.mem_map.1 h
    by_cases hname : q.1 = name <;> simp_all
  · rcases List.mem_append.1 h with hmem | hmem
    · exact .inl hmem
    · simp at hmem
      exact .inr (hmem ▸ rfl)

/-- The parameters an attribute's named arguments record, read by name, give each name's last
value. -/
theorem lookup_foldl_set (named : List NamedArg) (ps : Params) (name : String) :
    (named.foldl (fun ps n => ps.set n.name n.value) ps).lookup name =
      ((named.reverse.find? (·.name == name)).map (·.value)).or (ps.lookup name) := by
  induction named generalizing ps with
  | nil => simp
  | cons n named ih =>
      rw [List.foldl_cons, ih, lookup_set, List.reverse_cons, List.find?_append]
      cases hfind : named.reverse.find? (·.name == name) with
      | some m => simp
      | none =>
          by_cases hn : name = n.name
          · subst hn
            simp
          · have hne : (n.name == name) = false := by simp [Ne.symm hn]
            simp [hn, hne]

/-- Every parameter an attribute's named arguments record carries the name of one of them. -/
theorem key_of_mem_foldl_set {named : List NamedArg} {ps : Params} {p : String × AttrValue}
    (h : p ∈ named.foldl (fun ps n => ps.set n.name n.value) ps) :
    p ∈ ps ∨ ∃ n ∈ named, n.name = p.1 := by
  induction named generalizing ps with
  | nil => exact .inl h
  | cons n named ih =>
      rcases ih h with hmem | ⟨m, hm, hname⟩
      · rcases key_of_mem_set hmem with hmem | hname
        · exact .inl hmem
        · exact .inr ⟨n, List.mem_cons_self, hname.symm⟩
      · exact .inr ⟨m, List.mem_cons_of_mem _ hm, hname⟩

/-- The directive an attribute asks for renders exactly when the attribute's own conditions
hold: its parameters are the attribute's named arguments, each with its last value. -/
theorem renders_attribute_iff (a : Attribute) (k : Int) :
    Renders ⟨k, a.named.foldl (fun (ps : Params) (n : NamedArg) => ps.set n.name n.value) []⟩ ↔ AttributeRenders a k := by
  have hlookup : (List.lookup · (a.named.foldl (fun (ps : Params) (n : NamedArg) => ps.set n.name n.value) [])) =
      lastParam a := by
    funext name
    rw [lookup_foldl_set]
    simp [lastParam]
  have hread : (∀ p ∈ a.named.foldl (fun (ps : Params) (n : NamedArg) => ps.set n.name n.value) [], p.1 ∈ paramsRead k) ↔
      ∀ n ∈ a.named, n.name ∈ paramsRead k := by
    constructor
    · intro h n hn
      -- the name's last value is recorded under it
      have hsome : (lastParam a n.name).isSome := by
        simp only [lastParam, Option.isSome_map, List.find?_isSome, List.mem_reverse, beq_iff_eq]
        exact ⟨n, hn, rfl⟩
      obtain ⟨v, hv⟩ := Option.isSome_iff_exists.1 hsome
      rw [← hlookup] at hv
      exact h _ (mem_of_lookup_eq_some hv)
    · intro h p hp
      rcases key_of_mem_foldl_set hp with hnil | ⟨n, hn, hname⟩
      · cases hnil
      · exact hname ▸ h n hn
  constructor
  · rintro ⟨hkind, hreads, hrequired, hfits⟩
    refine ⟨hkind, hread.1 hreads, ?_, ?_⟩
    · rwa [hlookup] at hrequired
    · intro name v hv
      rw [← hlookup] at hv
      exact hfits name v hv
  · rintro ⟨hkind, hreads, hrequired, hfits⟩
    refine ⟨hkind, hread.2 hreads, ?_, ?_⟩
    · simp only at hrequired ⊢
      rwa [hlookup]
    · intro name v hv
      have hv' : lastParam a name = some v := by rw [← hlookup]; exact hv
      exact hfits name v hv'

/-- The native type of a marshalling attribute renders exactly when the attribute is there, its
first positional argument is an integer naming a kind the writer renders, every named parameter
is one that kind reads, the parameters it cannot do without are there, and every parameter (with
its last value) holds a value of the right kind. -/
theorem directiveText_ok_iff (attr : Option Attribute) :
    (∃ text, directiveText attr = .ok text) ↔
      ∃ a first rest, attr = some a ∧ a.args = first :: rest ∧ first.valueKind = .int ∧
        AttributeRenders a first.int.toInt := by
  unfold directiveText
  cases attr with
  | none => simp [Directive.ofAttribute]
  | some a =>
      cases hargs : a.args with
      | nil => simp [Directive.ofAttribute, hargs]
      | cons first rest =>
          by_cases hk : first.valueKind = .int
          · have hread := asInt_of_int hk
            simp only [Directive.ofAttribute, hargs, hread, except_ok_bind]
            rw [render_ok_iff, renders_attribute_iff]
            simp [hargs, hk]
          · have hread := asInt_of_not_int hk
            simp [Directive.ofAttribute, hargs, hread, hk]

end NativeExports.Marshal

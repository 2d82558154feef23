import NativeExports.Description
import NativeExports.Proofs.ScanFindings
import Mathlib
/-!
Purpose: the scan reads back the export shorthand that packing a description writes.

Packing turns the `export` table of a described method into an attribute of the marker type,
put before the method's other attributes, with a `Name` argument when the requested name is not
empty and an `Ordinal` argument when the requested ordinal is not 0.  The scan decodes it: it
takes the first attribute of a marker type, reads `Name` (by default the declaring types'
dotted name and the method's name) and `Ordinal` (0 by default, and from 0 to 65535).

The described walk (`ModuleDescription.reachableMethods`) mirrors the scan's reference walk over
the packed image: the module's functions, then each type depth first, leaving out generic types
with everything nested in them.  A described method is exported (`ModuleDescription.exports`)
when it has an export table and is static, has a fixed argument list, no generic parameters and
public visibility, inside public types.

The proof relates the two trees.  Packing keeps every name, visibility, staticness and generic
parameter list (`TypeDef.Keeps`, `Method.Keeps`), so the two walks meet pairwise related methods
(`reachInType_keeps`, a mutual induction over the nested types), the scan chooses exactly the
packed exported methods (`chosenMethods_keeps`), and the scan's run with codes
(`scanModules_code`) becomes a run along the described exports.

Main result: `packed_exports_scan`.  An empty marker type is the exception: packing then writes
the default marker, which a scan for the empty type does not see.
-/

namespace NativeExports

variable {α β ε δ : Type}

/-! ### The described walk -/

mutual

/-- The described methods of a type and of the types nested in it, depth first, each with the
described types that enclose it; a generic type contributes nothing, nor does anything nested in
it. -/
def TypeDescription.reach (owners : List TypeDescription) :
    TypeDescription → List (List TypeDescription × MethodDescription)
  | t@⟨_, _, _, _, generics, methods, nested⟩ =>
    if generics.isEmpty then
      methods.map ((owners ++ [t]), ·) ++ TypeDescription.reachAll (owners ++ [t]) nested
    else []

/-- The described methods of a list of types, in order. -/
def TypeDescription.reachAll (owners : List TypeDescription) :
    List TypeDescription → List (List TypeDescription × MethodDescription)
  | [] => []
  | t :: rest => TypeDescription.reach owners t ++ TypeDescription.reachAll owners rest

end

/-- The described methods a scan meets, in order: the module's functions, then the methods of its
types. -/
def ModuleDescription.reachableMethods (d : ModuleDescription) :
    List (List TypeDescription × MethodDescription) :=
  d.functions.map ([], ·) ++ TypeDescription.reachAll [] d.types

/-- Whether a visibility word means public: the empty word, or `public` in any case. -/
def IsPublic (word : String) : Prop := Text.lower word = "" ∨ Text.lower word = "public"

instance (word : String) : Decidable (IsPublic word) := inferInstanceAs (Decidable (_ ∨ _))

/-- A described method that can be exported: static (the default), with a fixed argument list,
without generic parameters and public, inside public types. -/
def MethodDescription.Eligible (owners : List TypeDescription) (m : MethodDescription) : Prop :=
  m.isStatic.getD true = true ∧ m.varArg = false ∧ m.genericParams = [] ∧ IsPublic m.visibility ∧
    ∀ t ∈ owners, IsPublic t.visibility

instance (owners : List TypeDescription) (m : MethodDescription) : Decidable (m.Eligible owners) :=
  inferInstanceAs (Decidable (_ ∧ _ ∧ _ ∧ _ ∧ _))

/-- A described method that the scan should choose: the types enclosing it, the method, and its
export table. -/
structure DescribedExport where
  owners : List TypeDescription
  method : MethodDescription
  request : ExportRequest

/-- The described exports, in walk order: the eligible methods of the walk that have an export
table. -/
def ModuleDescription.exports (d : ModuleDescription) : List DescribedExport :=
  d.reachableMethods.filterMap fun (owners, m) =>
    if m.Eligible owners then m.exportRequest.map (DescribedExport.mk owners m) else none

/-- The dotted name of described declaring types: the outermost type's namespace, when not empty,
and the types' names. -/
def describedDeclaringName : List TypeDescription → String
  | [] => ""
  | owners@(first :: _) =>
    String.intercalate "." ((if first.ns = "" then [] else [first.ns]) ++ owners.map (·.name))

/-- The export name a described export should get: the requested name when not empty, else the
declaring types' dotted name and the method's name, or the bare method name. -/
def DescribedExport.name (x : DescribedExport) : String :=
  if x.request.name ≠ "" then x.request.name
  else if describedDeclaringName x.owners ≠ "" then
    describedDeclaringName x.owners ++ "." ++ x.method.name
  else x.method.name

/-- An ordinal the scan accepts: from 0 to 65535. -/
def ExportRequest.OrdinalFits (e : ExportRequest) : Prop := 0 ≤ e.ordinal ∧ e.ordinal ≤ 65535

instance (e : ExportRequest) : Decidable e.OrdinalFits := inferInstanceAs (Decidable (_ ∧ _))

/-- An ordinal that a 64-bit integer holds, as every ordinal read from a description text does. -/
def ExportRequest.Fits64 (e : ExportRequest) : Prop :=
  Int64.minValue.toInt ≤ e.ordinal ∧ e.ordinal ≤ Int64.maxValue.toInt

instance (e : ExportRequest) : Decidable e.Fits64 := inferInstanceAs (Decidable (_ ∧ _))

/-- A candidate is the one a described export calls for: found in the module, declared by types
of the described names, with the described method name, the export's name and its ordinal. -/
def Candidate.Matches (mod : LoadedModule) (c : Candidate) (x : DescribedExport) : Prop :=
  c.module = mod ∧ c.owners.map (·.name) = x.owners.map (·.name) ∧ c.method.name = x.method.name ∧
    c.name = x.name ∧ (c.ordinal.toNat : Int) = x.request.ordinal

/-! ### What packing keeps -/

/-- The attribute the export shorthand becomes: the marker type, with a `Name` argument when a
name is requested and then an `Ordinal` argument when a nonzero ordinal is. -/
def exportMarker (marker : String) (e : ExportRequest) : Attribute :=
  ⟨marker, [], (if e.name = "" then [] else [⟨"Name", AttrValue.ofString e.name⟩]) ++
    (if e.ordinal = 0 then [] else [⟨"Ordinal", AttrValue.ofInt (Int64.ofInt e.ordinal)⟩])⟩

/-- A packed type keeps its description's namespace, name and generic parameters, and its
visibility as the code the word names. -/
structure TypeDef.Keeps (t : TypeDef) (td : TypeDescription) : Prop where
  ns : t.ns = td.ns
  name : t.name = td.name
  generics : t.genericParams = td.genericParams
  visibility : Description.visibility td.visibility = .ok t.visibility

/-- A packed method keeps its description's name, staticness (static unless given), generic
parameters, argument list kind and visibility; its attributes are the export marker, when an
export table is described, and then one attribute of each described type, none of them empty. -/
structure Method.Keeps (marker : String) (m : Method) (md : MethodDescription) : Prop where
  name : m.name = md.name
  isStatic : m.isStatic = md.isStatic.getD true
  generics : m.genericParams = md.genericParams
  callConv : m.callConv = if md.varArg then callVarArg else 0
  visibility : Description.visibility md.visibility = .ok m.visibility
  attributes : ∃ raw : List Attribute,
    m.attributes = (md.exportRequest.map (exportMarker marker)).toList ++ raw ∧
      raw.map (·.typeName) = md.attributes.map (·.typeName)
  typed : ∀ a ∈ md.attributes, a.typeName ≠ ""

theorem mapError_eq_ok_iff {x : Except ε α} {f : ε → δ} {a : α} :
    x.mapError f = .ok a ↔ x = .ok a := by
  cases x <;> simp [Except.mapError]

theorem mapError_eq_error_iff {x : Except ε α} {f : ε → δ} {d : δ} :
    x.mapError f = .error d ↔ ∃ e, x = .error e ∧ f e = d := by
  cases x <;> simp [Except.mapError]

/-- A mapping that succeeds ran every element to success, in order. -/
theorem forall₂_of_mapM_eq_ok {f : α → Except ε β} :
    ∀ {xs : List α} {ys : List β}, xs.mapM f = .ok ys → List.Forall₂ (fun x y => f x = .ok y) xs ys
  | [], ys, h => by
    cases h
    exact .nil
  | x :: xs, ys, h => by
    obtain ⟨y, rest, hy, hrest, rfl⟩ := mapM_cons_eq_ok h
    exact .cons hy (forall₂_of_mapM_eq_ok hrest)

/-- Lists related pointwise by equal images have equal images. -/
theorem map_eq_of_forall₂ {γ : Type} {f : α → γ} {g : β → γ} {l₁ : List α} {l₂ : List β}
    (h : List.Forall₂ (fun a b => f a = g b) l₁ l₂) : l₁.map f = l₂.map g := by
  have hsame := List.forall₂_map_right_iff.2 (List.forall₂_map_left_iff.2 h)
  rwa [List.forall₂_eq_eq_eq] at hsame

theorem rawAttribute_eq_ok {d : AttributeDescription} {a : Attribute}
    (h : Description.rawAttribute d = .ok a) : d.typeName ≠ "" ∧ d.typeName = a.typeName := by
  unfold Description.rawAttribute at h
  by_cases hblank : d.typeName = ""
  · simp [hblank] at h
  · simp only [hblank, if_false] at h
    obtain ⟨args, -, h⟩ := except_bind_eq_ok h
    obtain ⟨named, -, h⟩ := except_bind_eq_ok h
    cases h
    exact ⟨hblank, rfl⟩

/-- A method built from a described one keeps it, whatever its return value and parameters,
when its visibility is the code the word names and its attributes are the export marker and
then the described attributes, each read. -/
theorem Method.keeps_of_parts {marker : String} {md : MethodDescription} {vis : UInt8}
    {returns : Param} {params : List Param} {markerAttrs attrs : List Attribute}
    (hvis : Description.visibility md.visibility = .ok vis)
    (hmarker : markerAttrs = (md.exportRequest.map (exportMarker marker)).toList)
    (hattrs : List.Forall₂ (fun a attr => Description.rawAttribute a = .ok attr) md.attributes attrs) :
    (⟨md.name, vis, md.isStatic.getD true, md.genericParams, if md.varArg then callVarArg else 0,
      returns, params, markerAttrs ++ attrs⟩ : Method).Keeps marker md := by
  obtain ⟨htyped, hsame⟩ := (List.forall₂_and_left _ _).1 (hattrs.imp fun _ _ h => rawAttribute_eq_ok h)
  exact ⟨rfl, rfl, rfl, rfl, hvis, ⟨attrs, by rw [hmarker], (map_eq_of_forall₂ hsame).symm⟩, htyped⟩

/-- The spec lemma of packing a method. -/
theorem method_keeps {marker : String} {scopes : List (String × Int32)} {md : MethodDescription}
    {m : Method} (h : Description.method marker scopes md = .ok m) : m.Keeps marker md := by
  unfold Description.method at h
  obtain ⟨vis, hvis, h⟩ := except_bind_eq_ok h
  obtain ⟨ret, -, h⟩ := except_bind_eq_ok h
  -- the return marshalling, when described, is read first; it plays no part here
  dsimp only at h
  split at h
  on_goal 2 => obtain ⟨lift, -, h⟩ := except_bind_eq_ok h
  all_goals
    obtain ⟨retAttrs, -, h⟩ := except_bind_eq_ok h
    obtain ⟨params, -, h⟩ := except_bind_eq_ok h
    obtain ⟨attrs, hattrs, h⟩ := except_bind_eq_ok h
    cases h
    -- the marker is written exactly when an export is requested
    exact Method.keeps_of_parts (mapError_eq_ok_iff.1 hvis) (by cases md.exportRequest <;> rfl)
      ((forall₂_of_mapM_eq_ok hattrs).imp fun _ _ h => mapError_eq_ok_iff.1 h)

theorem nestedDefs_forall₂ {marker : String} {scopes : List (String × Int32)} {owner : String} :
    ∀ {tds : List TypeDescription} {ts : List TypeDef},
      Description.nestedDefs marker scopes owner tds = .ok ts →
        List.Forall₂ (fun td t => Description.typeDef marker scopes td = .ok t) tds ts
  | [], ts, h => by
    rw [Description.nestedDefs] at h
    cases h
    exact .nil
  | td :: tds, ts, h => by
    rw [Description.nestedDefs] at h
    obtain ⟨t, ht, h⟩ := except_bind_eq_ok h
    obtain ⟨rest, hrest, h⟩ := except_bind_eq_ok h
    cases h
    exact .cons (mapError_eq_ok_iff.1 ht) (nestedDefs_forall₂ hrest)

/-- The spec lemma of packing a type: it keeps the description, and its method and nested type
entries are the described ones, each packed, with no empty entry. -/
theorem typeDef_eq_ok {marker : String} {scopes : List (String × Int32)} {td : TypeDescription}
    {t : TypeDef} (h : Description.typeDef marker scopes td = .ok t) :
    t.Keeps td ∧ ∃ ms ts, t.methods = ms.map some ∧ t.nested = ts.map some ∧
      List.Forall₂ (fun md m => Description.method marker scopes md = .ok m) td.methods ms ∧
      List.Forall₂ (fun td t => Description.typeDef marker scopes td = .ok t) td.nested ts := by
  obtain ⟨ns, name, vis, vt, generics, methods, nested⟩ := td
  unfold Description.typeDef at h
  obtain ⟨code, hcode, h⟩ := except_bind_eq_ok h
  obtain ⟨ms, hms, h⟩ := except_bind_eq_ok h
  obtain ⟨ts, hts, h⟩ := except_bind_eq_ok h
  cases h
  exact ⟨⟨rfl, rfl, rfl, mapError_eq_ok_iff.1 hcode⟩, ms, ts, rfl, rfl,
    (forall₂_of_mapM_eq_ok hms).imp fun _ _ h => mapError_eq_ok_iff.1 h, nestedDefs_forall₂ hts⟩

/-- The marker type packing writes: the given one, or the default marker when it is empty. -/
def packedMarker (marker : String) : String := if marker = "" then defaultMarker else marker

/-- The spec lemma of packing a module: its function and type entries are the described ones,
each packed with the marker type written, with no empty entry. -/
theorem toImage_eq_ok {d : ModuleDescription} {marker : String} {img : Image}
    (h : d.toImage marker = .ok img) :
    ∃ scopes fs ts, img.functions = fs.map some ∧ img.types = ts.map some ∧
      List.Forall₂ (fun md m => Description.method (packedMarker marker) scopes md = .ok m)
        d.functions fs ∧
      List.Forall₂ (fun td t => Description.typeDef (packedMarker marker) scopes td = .ok t)
        d.types ts := by
  unfold ModuleDescription.toImage at h
  obtain ⟨id, -, h⟩ := except_bind_eq_ok h
  obtain ⟨refs, -, h⟩ := except_bind_eq_ok h
  obtain ⟨fs, hfs, h⟩ := except_bind_eq_ok h
  obtain ⟨ts, hts, h⟩ := except_bind_eq_ok h
  cases h
  exact ⟨_, fs, ts, rfl, rfl, forall₂_of_mapM_eq_ok hfs, forall₂_of_mapM_eq_ok hts⟩

/-! ### The two walks -/

/-- A method the reference walk reaches in a packed image and a method the described walk reaches
agree: their enclosing types are pairwise kept, and so is the method. -/
def ReachKeeps (marker : String) (reached : List TypeDef × Method)
    (described : List TypeDescription × MethodDescription) : Prop :=
  List.Forall₂ TypeDef.Keeps reached.1 described.1 ∧ reached.2.Keeps marker described.2

theorem filterMap_id_map_some (l : List α) : (l.map some).filterMap id = l := by
  simp [List.filterMap_map]

/-- The methods of a packed type, each kept, with their chain of kept types. -/
theorem methods_keeps {marker : String} {scopes : List (String × Int32)}
    {chain : List TypeDef} {dchain : List TypeDescription} {mds : List MethodDescription}
    {ms : List Method} (hchain : List.Forall₂ TypeDef.Keeps chain dchain)
    (hms : List.Forall₂ (fun md m => Description.method marker scopes md = .ok m) mds ms) :
    List.Forall₂ (ReachKeeps marker) (ms.map (chain, ·)) (mds.map (dchain, ·)) := by
  rw [List.forall₂_map_left_iff, List.forall₂_map_right_iff]
  exact List.Forall₂.flip (hms.imp fun _ _ h => ⟨hchain, method_keeps h⟩)

mutual

/-- The walk lemma of one type: the reference walk over a packed type meets, pairwise, the
methods the described walk meets in its description. -/
theorem reachInType_keeps {marker : String} {scopes : List (String × Int32)} :
    ∀ (td : TypeDescription) {t : TypeDef} {owners : List TypeDef}
      {downers : List TypeDescription},
      Description.typeDef marker scopes td = .ok t → List.Forall₂ TypeDef.Keeps owners downers →
      List.Forall₂ (ReachKeeps marker) (reachInType owners t) (TypeDescription.reach downers td)
  | ⟨ns, name, vis, vt, generics, methods, nested⟩, t, owners, downers, h, howners => by
    obtain ⟨hkeeps, ms, ts, hms, hts, hmethods, hnested⟩ := typeDef_eq_ok h
    have hchain : List.Forall₂ TypeDef.Keeps (owners ++ [t])
        (downers ++ [⟨ns, name, vis, vt, generics, methods, nested⟩]) :=
      List.rel_append howners (.cons hkeeps .nil)
    obtain ⟨ns', name', vis', vt', generics', nested', methods'⟩ := t
    have hgenerics : generics' = generics := hkeeps.generics
    dsimp only at hms hts hgenerics
    subst hms hts hgenerics
    rw [reachInType, TypeDescription.reach]
    by_cases hplain : generics'.isEmpty
    · -- a plain type: its own methods, then its nested types
      rw [if_pos hplain, if_pos hplain, filterMap_id_map_some]
      exact List.rel_append (methods_keeps hchain hmethods) (reachAll_keeps nested hnested hchain)
    · -- a generic type and everything in it are left out on both sides
      rw [if_neg hplain, if_neg hplain]
      exact .nil

/-- The walk lemma of a list of types. -/
theorem reachAll_keeps {marker : String} {scopes : List (String × Int32)} :
    ∀ (tds : List TypeDescription) {ts : List TypeDef} {owners : List TypeDef}
      {downers : List TypeDescription},
      List.Forall₂ (fun td t => Description.typeDef marker scopes td = .ok t) tds ts →
      List.Forall₂ TypeDef.Keeps owners downers →
      List.Forall₂ (ReachKeeps marker) (reachInTypes owners (ts.map some))
        (TypeDescription.reachAll downers tds)
  | [], ts, owners, downers, hts, _ => by
    cases hts
    rw [List.map_nil, reachInTypes, TypeDescription.reachAll]
    exact .nil
  | td :: tds, ts, owners, downers, hts, howners => by
    cases hts with
    | cons ht hrest =>
      rw [List.map_cons, reachInTypes, TypeDescription.reachAll]
      exact List.rel_append (reachInType_keeps td ht howners) (reachAll_keeps tds hrest howners)

end

/-- Entries made from methods that were all written hold a method. -/
theorem method_isSome_of_written {mod : LoadedModule} {owners : List TypeDef} {inGeneric : Bool}
    {ms : List Method} {e : MethodEntry}
    (he : e ∈ (ms.map some).map (MethodEntry.mk mod owners inGeneric)) : e.method.isSome := by
  obtain ⟨m, hm, rfl⟩ := List.mem_map.1 he
  obtain ⟨m', -, rfl⟩ := List.mem_map.1 hm
  rfl

mutual

/-- A packed type has no empty method entry, nor has any type nested in it. -/
theorem entriesInType_packed {marker : String} {scopes : List (String × Int32)}
    (mod : LoadedModule) :
    ∀ (td : TypeDescription) {t : TypeDef} (inGeneric : Bool) (owners : List TypeDef),
      Description.typeDef marker scopes td = .ok t →
        ∀ e ∈ entriesInType mod inGeneric owners t, e.method.isSome
  | ⟨_, _, _, _, _, _, nested⟩, t, inGeneric, owners, h => by
    obtain ⟨-, ms, ts, hms, hts, -, hnested⟩ := typeDef_eq_ok h
    obtain ⟨ns', name', vis', vt', generics', nested', methods'⟩ := t
    dsimp only at hms hts
    subst hms hts
    intro e he
    rw [entriesInType] at he
    rcases List.mem_append.1 he with he | he
    · exact method_isSome_of_written he
    · exact entriesInTypes_packed mod nested _ _ hnested e he

/-- The types of a packed list have no empty method entry. -/
theorem entriesInTypes_packed {marker : String} {scopes : List (String × Int32)}
    (mod : LoadedModule) :
    ∀ (tds : List TypeDescription) {ts : List TypeDef} (inGeneric : Bool) (owners : List TypeDef),
      List.Forall₂ (fun td t => Description.typeDef marker scopes td = .ok t) tds ts →
        ∀ e ∈ entriesInTypes mod inGeneric owners (ts.map some), e.method.isSome
  | [], ts, inGeneric, owners, hts => by
    cases hts
    intro e he
    simp [entriesInTypes] at he
  | td :: tds, ts, inGeneric, owners, hts => by
    cases hts with
    | cons ht hrest =>
      intro e he
      rw [List.map_cons, entriesInTypes] at he
      rcases List.mem_append.1 he with he | he
      · exact entriesInType_packed mod td inGeneric owners ht e he
      · exact entriesInTypes_packed mod tds inGeneric owners hrest e he

end

/-- A packed module has no empty method entry, so its scan never crashes. -/
theorem methodEntries_packed {d : ModuleDescription} {marker : String} {img : Image}
    {mod : LoadedModule} (hpack : d.toImage marker = .ok img) (hmod : mod.image = img) :
    ∀ e ∈ methodEntries [mod], e.method.isSome := by
  obtain ⟨scopes, fs, ts, hfs, hts, -, htypes⟩ := toImage_eq_ok hpack
  intro e he
  simp only [methodEntries, List.flatMap_cons, List.flatMap_nil, List.append_nil, hmod, hfs,
    hts] at he
  rcases List.mem_append.1 he with he | he
  · exact method_isSome_of_written he
  · exact entriesInTypes_packed mod d.types false [] htypes e he

/-- The walk lemma of a packed module: the reference walk over it meets, pairwise, the methods
the described walk meets. -/
theorem reachableMethods_keeps {d : ModuleDescription} {marker : String} {img : Image}
    {mod : LoadedModule} (hpack : d.toImage marker = .ok img) (hmod : mod.image = img) :
    List.Forall₂ (fun reached described => reached.1 = mod ∧
        ReachKeeps (packedMarker marker) reached.2 described)
      (reachableMethods [mod]) d.reachableMethods := by
  obtain ⟨scopes, fs, ts, hfs, hts, hfunctions, htypes⟩ := toImage_eq_ok hpack
  have hwalk : reachableMethods [mod] =
      (fs.map ([], ·) ++ reachInTypes [] (ts.map some)).map (mod, ·) := by
    simp [reachableMethods, hmod, hfs, hts, Function.comp_def]
  rw [hwalk, List.forall₂_map_left_iff]
  exact List.rel_append (methods_keeps .nil hfunctions) (reachAll_keeps d.types htypes .nil)
    |>.imp fun _ _ h => ⟨rfl, h⟩

/-! ### What the scan chooses -/

/-- The visibility a word names is public exactly when the word means public. -/
theorem visibility_eq_public_iff {word : String} {code : UInt8}
    (h : Description.visibility word = .ok code) : code = visibilityPublic ↔ IsPublic word := by
  unfold Description.visibility at h
  unfold IsPublic
  split at h <;> cases h <;> simp_all [visibilityPublic]

theorem owners_public_iff {owners : List TypeDef} {downers : List TypeDescription}
    (h : List.Forall₂ TypeDef.Keeps owners downers) :
    (∀ t ∈ owners, t.visibility = visibilityPublic) ↔ ∀ t ∈ downers, IsPublic t.visibility := by
  induction h with
  | nil => simp
  | cons hkeeps _ ih =>
    simp only [List.mem_cons, forall_eq_or_imp, visibility_eq_public_iff hkeeps.visibility, ih]

/-- A packed method can be exported exactly when its description is eligible. -/
theorem ReachKeeps.exportable_iff {marker : String} {owners : List TypeDef} {m : Method}
    {downers : List TypeDescription} {md : MethodDescription}
    (h : ReachKeeps marker (owners, m) (downers, md)) : Exportable owners m ↔ md.Eligible downers := by
  obtain ⟨howners, keeps⟩ := h
  unfold Exportable MethodDescription.Eligible Method.isGeneric
  rw [keeps.isStatic, keeps.generics, keeps.callConv, visibility_eq_public_iff keeps.visibility,
    owners_public_iff howners]
  cases md.varArg <;> simp [callVarArg]

/-- A packed method whose described attributes are not of the type `k` carries a marker of type
`k` exactly when it has an export table and `k` is the marker type packing wrote. -/
theorem Method.Keeps.firstMarker_single {marker : String} {m : Method} {md : MethodDescription}
    (keeps : m.Keeps marker md) {k : String} (hraw : ∀ a ∈ md.attributes, a.typeName ≠ k) :
    firstMarker [k] m = if marker = k then md.exportRequest.map (exportMarker marker) else none := by
  obtain ⟨raw, hattrs, htypes⟩ := keeps.attributes
  have hunmarked : raw.find? (fun a => a.typeName ∈ [k]) = none := by
    rw [List.find?_eq_none]
    intro a ha
    have hmem : a.typeName ∈ md.attributes.map (·.typeName) := htypes ▸ List.mem_map_of_mem ha
    obtain ⟨b, hb, hsame⟩ := List.mem_map.1 hmem
    simpa [← hsame] using hraw b hb
  unfold firstMarker
  rw [hattrs, List.find?_append]
  cases md.exportRequest with
  | none => simpa using hunmarked
  | some e =>
    by_cases hk : marker = k
    · simp [exportMarker, hk]
    · simpa [exportMarker, hk] using hunmarked

/-- Right-hand facts join a relation between two lists. -/
theorem forall₂_and_right {R : α → β → Prop} {P : β → Prop} :
    ∀ {l₁ : List α} {l₂ : List β}, List.Forall₂ R l₁ l₂ → (∀ b ∈ l₂, P b) →
      List.Forall₂ (fun a b => R a b ∧ P b) l₁ l₂
  | _, _, .nil, _ => .nil
  | _, _, .cons hab hrest, hP =>
    .cons ⟨hab, hP _ List.mem_cons_self⟩
      (forall₂_and_right hrest fun b hb => hP b (List.mem_cons_of_mem _ hb))

/-- A method the scan chooses in a packed module and a described export agree: the method and
its types are kept, and its marker is the attribute the export table became. -/
def PickKeeps (marker : String) (mod : LoadedModule)
    (picked : LoadedModule × List TypeDef × Method × Attribute) (x : DescribedExport) : Prop :=
  picked.1 = mod ∧ ReachKeeps marker (picked.2.1, picked.2.2.1) (x.owners, x.method) ∧
    picked.2.2.2 = exportMarker marker x.request

/-- The scan for the marker type a module was packed with chooses, in walk order, exactly the
described exports, when no described attribute has that type. -/
theorem chosenMethods_keeps {d : ModuleDescription} {mk : String} {img : Image}
    {mod : LoadedModule} (hmk : mk ≠ "") (hpack : d.toImage mk = .ok img) (hmod : mod.image = img)
    (hraw : ∀ p ∈ d.reachableMethods, ∀ a ∈ p.2.attributes, a.typeName ≠ mk) :
    List.Forall₂ (PickKeeps mk mod) (chosenMethods [mk] [mod]) d.exports := by
  have hreach := reachableMethods_keeps hpack hmod
  rw [show packedMarker mk = mk from if_neg hmk] at hreach
  unfold chosenMethods ModuleDescription.exports
  refine List.rel_filterMap (fun reached described hrel => ?_) (forall₂_and_right hreach hraw)
  obtain ⟨mod', owners, m⟩ := reached
  obtain ⟨downers, md⟩ := described
  obtain ⟨⟨rfl, hkeeps⟩, hunmarked⟩ := hrel
  simp only [choose]
  rw [hkeeps.2.firstMarker_single hunmarked, if_pos rfl]
  by_cases heligible : md.Eligible downers
  · rw [if_pos (hkeeps.exportable_iff.2 heligible), if_pos heligible]
    cases md.exportRequest with
    | none => exact Option.Rel.none
    | some e => exact Option.Rel.some ⟨rfl, hkeeps, rfl⟩
  · rw [if_neg (mt hkeeps.exportable_iff.1 heligible), if_neg heligible]
    exact Option.Rel.none

/-! ### Reading the marker back -/

/-- The export marker names the requested name, or the fallback name when none is requested. -/
theorem markedName?_exportMarker (owners : List TypeDef) (m : Method) (marker : String)
    (e : ExportRequest) :
    markedName? owners m (exportMarker marker e) =
      some (if e.name = "" then fallbackName owners m else e.name) := by
  by_cases hname : e.name = ""
  · by_cases hzero : e.ordinal = 0 <;>
      simp [markedName?, exportMarker, Attribute.lookup, hname, hzero]
  · simp [markedName?, exportMarker, Attribute.lookup, hname, AttrValue.ofString,
      AttrValue.valueKind, ValueKind.code, ValueKind.ofCode]

theorem toInt_ofInt_ordinal {e : ExportRequest} (h : e.Fits64) :
    (Int64.ofInt e.ordinal).toInt = e.ordinal := by
  have hmin : Int64.minValue.toInt = -9223372036854775808 := by decide
  have hmax : Int64.maxValue.toInt = 9223372036854775807 := by decide
  obtain ⟨hlow, hhigh⟩ := h
  exact Int64.toInt_ofInt_of_le (by omega) (by omega)

/-- The export marker requests the described ordinal when it fits, and cannot be read when it
does not. -/
theorem markedOrdinal?_exportMarker (marker : String) (e : ExportRequest) (h : e.Fits64) :
    markedOrdinal? (exportMarker marker e) =
      if e.OrdinalFits then some e.ordinal.toNat.toUInt16 else none := by
  by_cases hzero : e.ordinal = 0
  · -- no `Ordinal` argument is written for 0, which reads back as 0
    have hfits : e.OrdinalFits := ⟨by omega, by omega⟩
    by_cases hname : e.name = "" <;>
      simp [markedOrdinal?, exportMarker, Attribute.lookup, hname, hzero, hfits]
  · by_cases hname : e.name = "" <;>
      simp [markedOrdinal?, exportMarker, Attribute.lookup, hname, hzero, AttrValue.ofInt,
        AttrValue.valueKind, ValueKind.code, ValueKind.ofCode, toInt_ofInt_ordinal h,
        ExportRequest.OrdinalFits]

theorem markedCandidate?_exportMarker (mod : LoadedModule) (owners : List TypeDef) (m : Method)
    (marker : String) (e : ExportRequest) (h : e.Fits64) :
    markedCandidate? (mod, owners, m, exportMarker marker e) =
      if e.OrdinalFits then
        some ⟨mod, owners, m, if e.name = "" then fallbackName owners m else e.name,
          e.ordinal.toNat.toUInt16⟩
      else none := by
  rw [markedCandidate?, markedName?_exportMarker, markedOrdinal?_exportMarker marker e h]
  by_cases hfits : e.OrdinalFits
  · rw [if_pos hfits, if_pos hfits]
    rfl
  · rw [if_neg hfits, if_neg hfits]
    rfl

theorem names_keeps {owners : List TypeDef} {downers : List TypeDescription}
    (h : List.Forall₂ TypeDef.Keeps owners downers) :
    owners.map (·.name) = downers.map (·.name) :=
  map_eq_of_forall₂ (h.imp fun _ _ k => k.name)

theorem declaringName_keeps {owners : List TypeDef} {downers : List TypeDescription}
    (h : List.Forall₂ TypeDef.Keeps owners downers) :
    declaringName owners = describedDeclaringName downers := by
  cases h with
  | nil => rfl
  | cons hfirst hrest =>
    simp only [declaringName, describedDeclaringName, hfirst.ns, List.map_cons, hfirst.name,
      names_keeps hrest]

/-- What the scan reads off a chosen method of a packed module: nothing exactly when the
requested ordinal does not fit, and otherwise the candidate the described export calls for. -/
theorem PickKeeps.read {marker : String} {mod : LoadedModule}
    {picked : LoadedModule × List TypeDef × Method × Attribute} {x : DescribedExport}
    (hpick : PickKeeps marker mod picked x) (hfit : x.request.Fits64) :
    (markedCandidate? picked = none ↔ ¬ x.request.OrdinalFits) ∧
      ∀ c, markedCandidate? picked = some c → x.request.OrdinalFits ∧ c.Matches mod x := by
  obtain ⟨mod', owners, m, a⟩ := picked
  obtain ⟨rfl, ⟨howners, keeps⟩, rfl⟩ := hpick
  rw [markedCandidate?_exportMarker mod' owners m marker x.request hfit]
  by_cases hfits : x.request.OrdinalFits
  · rw [if_pos hfits]
    refine ⟨by simp [hfits], ?_⟩
    rintro c ⟨⟩
    refine ⟨hfits, rfl, names_keeps howners, keeps.name, ?_, ?_⟩
    · -- the requested name, else the declaring types' dotted name and the method's name
      unfold DescribedExport.name fallbackName
      rw [declaringName_keeps howners, keeps.name]
      by_cases hname : x.request.name = ""
      · by_cases hdeclared : describedDeclaringName x.owners = "" <;> simp [hname, hdeclared]
      · simp [hname]
    · obtain ⟨hlow, hhigh⟩ := hfits
      show ((x.request.ordinal.toNat.toUInt16.toNat : Nat) : Int) = x.request.ordinal
      rw [Nat.toUInt16, UInt16.toNat_ofNat']
      omega
  · rw [if_neg hfits]
    exact ⟨by simp [hfits], fun c h => by cases h⟩

/-! ### The run along the described exports -/

section Run

variable {marker : String} {mod : LoadedModule}

/-- One step of the reference run along a described export: it stops with a malformed attribute
when the export's ordinal does not fit, and otherwise reads a candidate the export calls for,
then stops on a repeated name or goes on with the candidate chosen. -/
theorem referenceRun_cons_of_keeps {picked : LoadedModule × List TypeDef × Method × Attribute}
    {x : DescribedExport} (hpick : PickKeeps marker mod picked x) (hfit : x.request.Fits64)
    (chosen : List Candidate) (picks : List (LoadedModule × List TypeDef × Method × Attribute)) :
    (¬ x.request.OrdinalFits ∧ referenceRun chosen (picked :: picks) = .error Code.badAttribute) ∨
      (x.request.OrdinalFits ∧ ∃ c, c.Matches mod x ∧ referenceRun chosen (picked :: picks) =
        if c.name ∈ chosen.map (·.name) then .error Code.duplicateExportName
        else referenceRun (chosen ++ [c]) picks) := by
  obtain ⟨hnone, hsome⟩ := hpick.read hfit
  rw [referenceRun]
  cases hread : markedCandidate? picked with
  | none => exact .inl ⟨hnone.1 hread, rfl⟩
  | some c =>
    obtain ⟨hfits, hmatch⟩ := hsome c hread
    exact .inr ⟨hfits, c, hmatch, rfl⟩

/-- The candidates of a reference run that succeeds are, after those it started with, the ones
the described exports call for. -/
theorem referenceRun_ok_matches :
    ∀ {picks : List (LoadedModule × List TypeDef × Method × Attribute)} {xs : List DescribedExport},
      List.Forall₂ (PickKeeps marker mod) picks xs → (∀ x ∈ xs, x.request.Fits64) →
      ∀ (chosen : List Candidate) {cs : List Candidate}, referenceRun chosen picks = .ok cs →
        ∃ tail, cs = chosen ++ tail ∧ List.Forall₂ (Candidate.Matches mod) tail xs := by
  intro picks xs hpicks
  induction hpicks with
  | nil =>
    intro _ chosen cs h
    rw [referenceRun] at h
    cases h
    exact ⟨[], by simp, .nil⟩
  | @cons picked x picks xs hpick hrest ih =>
    intro hfit chosen cs h
    rcases referenceRun_cons_of_keeps hpick (hfit x List.mem_cons_self) chosen picks with
      ⟨-, hrun⟩ | ⟨-, c, hmatch, hrun⟩
    · rw [hrun] at h
      cases h
    · rw [hrun] at h
      by_cases hdup : c.name ∈ chosen.map (·.name)
      · rw [if_pos hdup] at h
        cases h
      · -- the candidate joins those chosen, and the run goes on
        rw [if_neg hdup] at h
        obtain ⟨tail, rfl, htail⟩ :=
          ih (fun y hy => hfit y (List.mem_cons_of_mem _ hy)) _ h
        exact ⟨c :: tail, by simp, .cons hmatch htail⟩

/-- A name that came before repeats in every list that follows it with the name. -/
theorem not_nodup_of_mem {names rest : List String} {name : String} (h : name ∈ names) :
    ¬ (names ++ name :: rest).Nodup := by
  rw [List.nodup_middle, List.nodup_cons]
  exact fun hdistinct => hdistinct.1 (List.mem_append_left _ h)

theorem nodup_names_concat {chosen : List Candidate} {c : Candidate}
    (hnodup : (chosen.map (·.name)).Nodup) (hnew : c.name ∉ chosen.map (·.name)) :
    ((chosen ++ [c]).map (·.name)).Nodup := by
  rw [List.map_append, List.map_singleton, ← List.concat_eq_append, List.nodup_concat]
  exact ⟨hnew, hnodup⟩

/-- The reference run along the described exports succeeds exactly when every requested ordinal
fits and the export names, after those chosen before, are distinct. -/
theorem referenceRun_ok_iff :
    ∀ {picks : List (LoadedModule × List TypeDef × Method × Attribute)} {xs : List DescribedExport},
      List.Forall₂ (PickKeeps marker mod) picks xs → (∀ x ∈ xs, x.request.Fits64) →
      ∀ (chosen : List Candidate), (chosen.map (·.name)).Nodup →
        ((∃ cs, referenceRun chosen picks = .ok cs) ↔
          (∀ x ∈ xs, x.request.OrdinalFits) ∧ (chosen.map (·.name) ++ xs.map (·.name)).Nodup) := by
  intro picks xs hpicks
  induction hpicks with
  | nil =>
    intro _ chosen hnodup
    simp [referenceRun, hnodup]
  | @cons picked x picks xs hpick hrest ih =>
    intro hfit chosen hnodup
    have hfits' : ∀ y ∈ xs, y.request.Fits64 := fun y hy => hfit y (List.mem_cons_of_mem _ hy)
    rcases referenceRun_cons_of_keeps hpick (hfit x List.mem_cons_self) chosen picks with
      ⟨hbad, hrun⟩ | ⟨hfits, c, hmatch, hrun⟩
    · -- an ordinal that does not fit stops the run
      simp [hrun, hbad]
    · have hname : c.name = x.name := hmatch.2.2.2.1
      rw [hrun, List.map_cons, ← hname]
      by_cases hdup : c.name ∈ chosen.map (·.name)
      · -- a name chosen before stops the run, and the names are not distinct
        rw [if_pos hdup]
        simp [not_nodup_of_mem hdup]
      · -- a new name: the run goes on with the candidate chosen
        rw [if_neg hdup]
        have hnodup' := nodup_names_concat hnodup hdup
        have hsame : (chosen ++ [c]).map (·.name) ++ xs.map (·.name) =
            chosen.map (·.name) ++ c.name :: xs.map (·.name) := by
          simp
        rw [ih hfits' _ hnodup', hsame]
        simp [hfits]

/-- When the first export's ordinal fits, an export whose ordinal does not fit before any name
repeats is one of the later exports. -/
theorem misfit_before_repeat_tail {names : List String} {x : DescribedExport}
    {xs : List DescribedExport} (hfits : x.request.OrdinalFits) :
    (∃ k y, (x :: xs)[k]? = some y ∧ ¬ y.request.OrdinalFits ∧
        (names ++ ((x :: xs).map (·.name)).take k).Nodup) ↔
      ∃ k y, xs[k]? = some y ∧ ¬ y.request.OrdinalFits ∧
        (names ++ x.name :: (xs.map (·.name)).take k).Nodup := by
  constructor
  · rintro ⟨k, y, hy, hbad, hdistinct⟩
    cases k with
    | zero =>
      simp only [List.getElem?_cons_zero, Option.some.injEq] at hy
      exact absurd (hy ▸ hfits) hbad
    | succ k => exact ⟨k, y, by simpa using hy, hbad, by simpa using hdistinct⟩
  · rintro ⟨k, y, hy, hbad, hdistinct⟩
    exact ⟨k + 1, y, by simpa using hy, hbad, by simpa using hdistinct⟩

/-- The reference run along the described exports stops with a malformed attribute exactly when
some requested ordinal does not fit before any export name, after those chosen before, comes
twice. -/
theorem referenceRun_badAttribute_iff :
    ∀ {picks : List (LoadedModule × List TypeDef × Method × Attribute)} {xs : List DescribedExport},
      List.Forall₂ (PickKeeps marker mod) picks xs → (∀ x ∈ xs, x.request.Fits64) →
      ∀ (chosen : List Candidate), (chosen.map (·.name)).Nodup →
        (referenceRun chosen picks = .error Code.badAttribute ↔
          ∃ k x, xs[k]? = some x ∧ ¬ x.request.OrdinalFits ∧
            (chosen.map (·.name) ++ (xs.map (·.name)).take k).Nodup) := by
  intro picks xs hpicks
  induction hpicks with
  | nil =>
    intro _ chosen _
    simp [referenceRun]
  | @cons picked x picks xs hpick hrest ih =>
    intro hfit chosen hnodup
    have hfits' : ∀ y ∈ xs, y.request.Fits64 := fun y hy => hfit y (List.mem_cons_of_mem _ hy)
    rcases referenceRun_cons_of_keeps hpick (hfit x List.mem_cons_self) chosen picks with
      ⟨hbad, hrun⟩ | ⟨hfits, c, hmatch, hrun⟩
    · -- the first export's ordinal does not fit: the run stops here
      simp only [hrun, true_iff]
      exact ⟨0, x, rfl, hbad, by simpa using hnodup⟩
    · have hname : c.name = x.name := hmatch.2.2.2.1
      -- the first export is read, so the ordinal that stops the run comes later
      rw [hrun, misfit_before_repeat_tail hfits, ← hname]
      by_cases hdup : c.name ∈ chosen.map (·.name)
      · -- a name chosen before stops the run with another code, and repeats in every prefix
        rw [if_pos hdup]
        constructor
        · intro h
          exact absurd (Except.error.inj h) (by decide)
        · rintro ⟨k, y, -, -, hdistinct⟩
          exact absurd hdistinct (not_nodup_of_mem hdup)
      · -- a new name: the run goes on with the candidate chosen
        rw [if_neg hdup]
        have hnodup' := nodup_names_concat hnodup hdup
        have hsame : ∀ k, (chosen ++ [c]).map (·.name) ++ (xs.map (·.name)).take k =
            chosen.map (·.name) ++ c.name :: (xs.map (·.name)).take k := by
          simp
        simp only [ih hfits' _ hnodup', hsame]

end Run

/-! ### The scan of a packed module -/

/-- The scan reads back what packing writes.  For every description packed with a marker type
`mk` that is not empty and that no described attribute of a reached method has, every export
ordinal a 64-bit integer holds, and every module holding the packed image, the scan for `mk`:
answers with exactly the described exports, in walk order, each named by its request or by
default and numbered by its requested ordinal; succeeds exactly when every ordinal lies in
0..65535 and the export names are distinct; and fails with a malformed attribute exactly when an
ordinal out of that range comes before any name comes twice. -/
theorem packed_exports_scan (d : ModuleDescription) (mk : String) (img : Image)
    (mod : LoadedModule) (hmk : mk ≠ "") (hpack : d.toImage mk = .ok img) (hmod : mod.image = img)
    (hraw : ∀ p ∈ d.reachableMethods, ∀ a ∈ p.2.attributes, a.typeName ≠ mk)
    (hfit : ∀ x ∈ d.exports, x.request.Fits64) :
    (∀ cs, (scanModules [mod] [mk]).2 = .ok cs →
      List.Forall₂ (Candidate.Matches mod) cs d.exports) ∧
    ((∃ cs, (scanModules [mod] [mk]).2 = .ok cs) ↔
      (∀ x ∈ d.exports, x.request.OrdinalFits) ∧ (d.exports.map (·.name)).Nodup) ∧
    ((∃ f, (scanModules [mod] [mk]).2 = .error f ∧ f.code = Code.badAttribute) ↔
      ∃ k x, d.exports[k]? = some x ∧ ¬ x.request.OrdinalFits ∧
        ((d.exports.map (·.name)).take k).Nodup) := by
  have hcode := scanModules_code [mod] [mk] fun e he _ => methodEntries_packed hpack hmod e he
  have hpicks := chosenMethods_keeps hmk hpack hmod hraw
  refine ⟨fun cs hcs => ?_, ?_, ?_⟩
  · -- the candidates are those the described exports call for
    have hrun : referenceRun [] (chosenMethods [mk] [mod]) = .ok cs := by
      rw [← hcode, hcs]
      rfl
    obtain ⟨tail, rfl, htail⟩ := referenceRun_ok_matches hpicks hfit [] hrun
    exact htail
  · have hok := referenceRun_ok_iff hpicks hfit [] List.nodup_nil
    rw [List.map_nil, List.nil_append] at hok
    rw [← hok, ← hcode]
    exact exists_congr fun cs => mapError_eq_ok_iff.symm
  · have hbad := referenceRun_badAttribute_iff hpicks hfit [] List.nodup_nil
    simp only [List.map_nil, List.nil_append] at hbad
    rw [← hbad, ← hcode, mapError_eq_error_iff]

/-- A packing that does not fail gives an image. -/
theorem exists_image_of_toBool {d : ModuleDescription} {marker : String}
    (h : (d.toImage marker).toBool = true) : ∃ img, d.toImage marker = .ok img := by
  cases himg : d.toImage marker with
  | error e =>
    rw [himg] at h
    cases h
  | ok img => exact ⟨img, rfl⟩

/-- A description with a module function `F` exported as `f`, and a public type `Geo.Outer`
whose instance method `Skip` asks for an export it cannot have and whose public nested type
`Inner` exports `G` under its default name with ordinal 2. -/
def nestedExports : ModuleDescription :=
  { ModuleDescription.blank with
    name := "M"
    runtime := "v4.0.30319"
    functions := [{ ModuleDescription.blankMethod with name := "F", exportRequest := some ⟨"f", 0⟩ }]
    types := [{ ModuleDescription.blankType with
      ns := "Geo", name := "Outer", visibility := "public"
      methods := [{ ModuleDescription.blankMethod with
        name := "Skip", isStatic := some false, exportRequest := some ⟨"", 1⟩ }]
      nested := [{ ModuleDescription.blankType with
        name := "Inner", visibility := "public"
        methods := [{ ModuleDescription.blankMethod with
          name := "G", exportRequest := some ⟨"", 2⟩ }] }] }] }

/-- The scan for `My.Export` of a module packed from `nestedExports` answers with `f` and with
`G` under the dotted name of its declaring types, and passes over the instance method. -/
theorem nested_exports_scanned :
    ∃ img, nestedExports.toImage "My.Export" = .ok img ∧
      ∃ cs, (scanModules [{ (default : LoadedModule) with image := img }] ["My.Export"]).2 = .ok cs ∧
        cs.map (·.name) = ["f", "Geo.Outer.Inner.G"] ∧
          cs.map (fun c => (c.ordinal.toNat : Int)) = [0, 2] := by
  obtain ⟨img, himg⟩ := exists_image_of_toBool
    (show (nestedExports.toImage "My.Export").toBool = true from rfl)
  have hscan := packed_exports_scan nestedExports "My.Export" img
    { (default : LoadedModule) with image := img } (by decide) himg rfl (by decide) (by decide)
  obtain ⟨cs, hcs⟩ := hscan.2.1.2 ⟨by decide, by decide⟩
  have hmatch := hscan.1 cs hcs
  have hnames := map_eq_of_forall₂ (hmatch.imp fun _ _ h => h.2.2.2.1)
  have hords := map_eq_of_forall₂ (hmatch.imp fun _ _ h => h.2.2.2.2)
  exact ⟨img, himg, cs, hcs, hnames.trans (by decide), hords.trans (by decide)⟩

/-- With an empty marker type, packing writes the default marker and no packed attribute has the
empty type, so the scan for the empty type chooses nothing, for every description and every
module holding the packed image. -/
theorem empty_marker_scan_chooses_nothing {d : ModuleDescription} {img : Image}
    {mod : LoadedModule} (hpack : d.toImage "" = .ok img) (hmod : mod.image = img) :
    (scanModules [mod] [""]).2 = .ok [] := by
  have hcode := scanModules_code [mod] [""] fun e he _ => methodEntries_packed hpack hmod e he
  have hnothing : List.Forall₂ (fun _ _ => True) (chosenMethods [""] [mod])
      (d.reachableMethods.filterMap fun _ => (none : Option Unit)) := by
    refine List.rel_filterMap (fun reached described hrel => ?_) (reachableMethods_keeps hpack hmod)
    obtain ⟨mod', owners, m⟩ := reached
    obtain ⟨-, -, keeps⟩ := hrel
    have hdefault : packedMarker "" ≠ "" := by decide
    simp only [choose]
    rw [keeps.firstMarker_single keeps.typed, if_neg hdefault]
    simp
  rw [List.filterMap_none, List.forall₂_nil_right_iff] at hnothing
  rw [hnothing] at hcode
  exact mapError_eq_ok_iff.1 hcode

/-- A description whose one module function `F` is exported under the name `f`. -/
def singleExport : ModuleDescription :=
  { ModuleDescription.blank with
    name := "M"
    runtime := "v4.0.30319"
    functions := [{ ModuleDescription.blankMethod with name := "F", exportRequest := some ⟨"f", 0⟩ }] }

/-- Packing `singleExport` with an empty marker type and scanning for the empty type chooses
nothing, though `F` is a described export. -/
theorem empty_marker_skips_export :
    singleExport.exports.length = 1 ∧ ∃ img, singleExport.toImage "" = .ok img ∧
      (scanModules [{ (default : LoadedModule) with image := img }] [""]).2 = .ok [] := by
  obtain ⟨img, himg⟩ := exists_image_of_toBool
    (show (singleExport.toImage "").toBool = true from rfl)
  exact ⟨by decide, img, himg, empty_marker_scan_chooses_nothing himg rfl⟩

end NativeExports

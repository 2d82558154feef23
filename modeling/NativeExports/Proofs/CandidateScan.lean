import Mathlib
import NativeExports.Proofs.MethodEntries
/-!
Purpose: the scan for export candidates follows a reference walk over the modules.

The reference walk lists, module by module, the module-level functions and then the methods of
each top-level type depth first (a type's methods, then its nested types), leaving out every
generic type definition together with everything nested in it.  It chooses a method that is
exportable and carries a marker, and turns it into a candidate named and numbered by its first
marker.  The scan succeeds exactly when every chosen marker can be read and no two chosen
methods get the same name, and then returns the chosen methods in walk order.

The proof has three layers.  The walk lemma (`walkVisits_reached`) says that the visits of the
model, less those inside generic definitions, reach the methods of the reference walk; it is a
mutual induction over the nested types.  The step lemma (`ScanState.visit_chosen`) says what one
visit does to the candidates chosen so far.  The run lemma (`runChosen_eq`) folds the step over
a list of visits, with the names chosen so far, distinct, as its invariant.

Main result: `scanModules_follows_walk`.
-/

namespace NativeExports

/-! ### The reference walk -/

mutual

/-- The methods of a type and of the types nested in it, depth first, each with the chain of
types that enclose it.  A generic type definition contributes nothing, nor does anything nested
in it. -/
def reachInType (owners : List TypeDef) : TypeDef → List (List TypeDef × Method)
  | t@⟨_, _, _, _, generics, nested, methods⟩ =>
    if generics.isEmpty then
      (methods.filterMap id).map ((owners ++ [t]), ·) ++ reachInTypes (owners ++ [t]) nested
    else []

/-- The methods of a list of types, in order, skipping empty entries. -/
def reachInTypes (owners : List TypeDef) : List (Option TypeDef) → List (List TypeDef × Method)
  | [] => []
  | none :: rest => reachInTypes owners rest
  | some t :: rest => reachInType owners t ++ reachInTypes owners rest

end

/-- The methods the walk reaches, in order: per module, its functions and then the methods of
its types, each with its module and enclosing types. -/
def reachableMethods (mods : List LoadedModule) : List (LoadedModule × List TypeDef × Method) :=
  mods.flatMap fun mod =>
    (mod.image.functions.filterMap id).map (mod, [], ·) ++
      (reachInTypes [] mod.image.types).map (mod, ·)

/-- A method that can be exported: static, not generic, with a fixed argument list, public, and
declared in public types only. -/
def Exportable (owners : List TypeDef) (m : Method) : Prop :=
  m.isStatic = true ∧ m.isGeneric = false ∧ m.callConv ≠ callVarArg ∧
    m.visibility = visibilityPublic ∧ ∀ t ∈ owners, t.visibility = visibilityPublic

instance (owners : List TypeDef) (m : Method) : Decidable (Exportable owners m) :=
  inferInstanceAs (Decidable (_ ∧ _ ∧ _ ∧ _ ∧ _))

/-- The first attribute of a method whose type is a marker type: one of the given types, or the
default marker when none is given. -/
def firstMarker (markers : List String) (m : Method) : Option Attribute :=
  m.attributes.find? fun a => a.typeName ∈ (if markers = [] then [defaultMarker] else markers)

/-- A reached method that the walk chooses, with its first marker. -/
def choose (markers : List String) :
    LoadedModule × List TypeDef × Method → Option (LoadedModule × List TypeDef × Method × Attribute)
  | (mod, owners, m) =>
    if Exportable owners m then (firstMarker markers m).map ((mod, owners, m, ·)) else none

/-- The methods the walk chooses, in walk order, each with its first marker. -/
def chosenMethods (markers : List String) (mods : List LoadedModule) :
    List (LoadedModule × List TypeDef × Method × Attribute) :=
  (reachableMethods mods).filterMap (choose markers)

/-- The export name of a method whose marker gives none: the declaring types' dotted name and
the method's name, or the bare method name when the declaring name is empty. -/
def fallbackName (owners : List TypeDef) (m : Method) : String :=
  if declaringName owners = "" then m.name else declaringName owners ++ "." ++ m.name

/-- The export name a marker gives: its first `Name` argument when that is a non-empty string or
type name, the fallback name when the argument is empty or absent, and none when the argument
has another kind. -/
def markedName? (owners : List TypeDef) (m : Method) (marker : Attribute) : Option String :=
  match marker.lookup "Name" with
  | none => some (fallbackName owners m)
  | some v =>
    if v.valueKind = .string ∨ v.valueKind = .type then
      some (if v.str = "" then fallbackName owners m else v.str)
    else none

/-- The ordinal a marker requests: its first `Ordinal` argument, 0 when absent, and none when
the argument is not an integer from 0 to 65535. -/
def markedOrdinal? (marker : Attribute) : Option UInt16 :=
  match marker.lookup "Ordinal" with
  | none => some 0
  | some v =>
    if v.valueKind = .int ∧ 0 ≤ v.int.toInt ∧ v.int.toInt ≤ 65535 then
      some v.int.toInt.toNat.toUInt16
    else none

/-- The candidate a chosen method becomes, or none when its marker cannot be read. -/
def markedCandidate? : LoadedModule × List TypeDef × Method × Attribute → Option Candidate
  | (mod, owners, m, marker) => do
    let name ← markedName? owners m marker
    let ordinal ← markedOrdinal? marker
    pure ⟨mod, owners, m, name, ordinal⟩

/-- The scan the walk describes: the chosen methods in walk order, each once, as candidates
named and numbered by their markers; none when, along the walk, a chosen marker cannot be read
or a chosen method gets a name chosen before. -/
def referenceScan (mods : List LoadedModule) (markers : List String) : Option (List Candidate) := do
  let cs ← (chosenMethods markers mods).mapM markedCandidate?
  if (cs.map (·.name)).Nodup then some cs else none

/-! ### The walk lemma -/

/-- The method a visit reaches outside generic type definitions, with its module and enclosing
types. -/
def Visit.reached? : Visit → Option (LoadedModule × List TypeDef × Method)
  | .method mod owners m => some (mod, owners, m)
  | .inGeneric .. | .emptyInGeneric => none

/-- The visits of a list of methods reach those methods, skipping empty entries. -/
theorem methodVisits_reached (mod : LoadedModule) (owners : List TypeDef)
    (ms : List (Option Method)) :
    (methodVisits mod owners ms).filterMap Visit.reached? = (ms.filterMap id).map (mod, owners, ·) := by
  induction ms with
  | nil =>
      rfl
  | cons m ms ih =>
      cases m with
      | none => simpa [methodVisits] using ih
      | some m => simpa [methodVisits, Visit.reached?] using ih

/-- The methods of a generic definition are visited only to be reported. -/
theorem genericMethodVisits_reached (mod : LoadedModule) (chain : List TypeDef)
    (ms : List (Option Method)) :
    (genericMethodVisits mod chain ms).filterMap Visit.reached? = [] := by
  induction ms with
  | nil =>
      rfl
  | cons m ms ih =>
      cases m <;> simpa [genericMethodVisits, Visit.reached?] using ih

mutual

/-- Nothing inside a generic type definition is reached. -/
theorem genericVisits_reached (mod : LoadedModule) :
    ∀ (chain : List TypeDef) (t : Option TypeDef),
      (genericVisits mod chain t).filterMap Visit.reached? = []
  | chain, none => by
      rw [genericVisits]
      rfl
  | chain, some ⟨_, _, _, _, _, nested, methods⟩ => by
      rw [genericVisits, List.filterMap_append, genericMethodVisits_reached,
        genericNestedVisits_reached mod chain nested]
      rfl

/-- Nothing nested in a generic type definition is reached. -/
theorem genericNestedVisits_reached (mod : LoadedModule) :
    ∀ (chain : List TypeDef) (ts : List (Option TypeDef)),
      (genericNestedVisits mod chain ts).filterMap Visit.reached? = []
  | chain, [] => by
      rw [genericNestedVisits]
      rfl
  | chain, none :: rest => by
      rw [genericNestedVisits]
      exact genericNestedVisits_reached mod chain rest
  | chain, some t :: rest => by
      rw [genericNestedVisits, List.filterMap_append, genericVisits_reached mod (chain ++ [t]) (some t),
        genericNestedVisits_reached mod chain rest]
      rfl

end

mutual

/-- The visits of a type reach the methods the reference walk finds in it. -/
theorem typeVisits_reached (mod : LoadedModule) :
    ∀ (owners : List TypeDef) (t : TypeDef),
      (typeVisits mod owners (some t)).filterMap Visit.reached? = (reachInType owners t).map (mod, ·)
  | owners, ⟨ns, name, vis, vt, generics, nested, methods⟩ => by
      by_cases hplain : generics.isEmpty
      · rw [typeVisits, reachInType, if_pos hplain, if_pos hplain, List.filterMap_append,
          methodVisits_reached, nestedVisits_reached mod _ nested, List.map_append, List.map_map]
        rfl
      · rw [typeVisits, reachInType, if_neg hplain, if_neg hplain, genericVisits_reached]
        rfl

/-- The visits of a list of types reach the methods the reference walk finds in them. -/
theorem nestedVisits_reached (mod : LoadedModule) :
    ∀ (owners : List TypeDef) (ts : List (Option TypeDef)),
      (nestedVisits mod owners ts).filterMap Visit.reached? = (reachInTypes owners ts).map (mod, ·)
  | owners, [] => by
      rw [nestedVisits, reachInTypes]
      rfl
  | owners, none :: rest => by
      rw [nestedVisits, reachInTypes, typeVisits, List.nil_append]
      exact nestedVisits_reached mod owners rest
  | owners, some t :: rest => by
      rw [nestedVisits, reachInTypes, List.filterMap_append, List.map_append,
        typeVisits_reached mod owners t, nestedVisits_reached mod owners rest]

end

/-- The walk lemma: outside generic definitions, the visits of the modules reach exactly the
methods of the reference walk, in its order. -/
theorem walkVisits_reached (mods : List LoadedModule) :
    (walkVisits mods).filterMap Visit.reached? = reachableMethods mods := by
  induction mods with
  | nil =>
      rfl
  | cons mod mods ih =>
      have hmodule : (moduleVisits mod).filterMap Visit.reached? =
          (mod.image.functions.filterMap id).map (mod, [], ·) ++
            (reachInTypes [] mod.image.types).map (mod, ·) := by
        rw [moduleVisits, List.filterMap_append, methodVisits_reached, nestedVisits_reached]
      simp only [walkVisits, reachableMethods, List.flatMap_cons, List.filterMap_append] at ih ⊢
      rw [hmodule, ih]

/-- The methods the visits choose are the chosen methods of the reference walk, in its order. -/
theorem walkVisits_chosen (mods : List LoadedModule) (markers : List String) :
    (walkVisits mods).filterMap (fun v => v.reached?.bind (choose markers)) =
      chosenMethods markers mods := by
  rw [← List.filterMap_filterMap, walkVisits_reached]
  rfl

/-! ### Reading a marker -/

/-- The name a marker gives, as the scan reads it, is the one the reference walk gives. -/
theorem markerName_toOption (mod : LoadedModule) (owners : List TypeDef) (m : Method)
    (marker : Attribute) :
    (markerName mod owners m marker).toOption = markedName? owners m marker := by
  have hname : ∀ given : String,
      (if given ≠ "" then given
        else if declaringName owners ≠ "" then declaringName owners ++ "." ++ m.name else m.name) =
      (if given = "" then fallbackName owners m else given) := by
    intro given
    by_cases hgiven : given = ""
    · by_cases hdeclared : declaringName owners = "" <;> simp [hgiven, hdeclared, fallbackName]
    · simp [hgiven]
  unfold markerName markedName?
  cases marker.lookup "Name" with
  | none =>
      simp only [hname]
      rfl
  | some v =>
      by_cases hkind : v.valueKind = .string ∨ v.valueKind = .type
      · have hread : v.asString = .ok v.str := by simp [AttrValue.asString, hkind]
        simp only [hread, hkind, hname, if_true]
        rfl
      · have hread : v.asString = .error (.reason ("expected string argument, got " ++
            v.valueKind.word)) := by
          simp [AttrValue.asString, hkind]
        simp only [hread, hkind, if_false]
        rfl

/-- The ordinal a marker requests, as the scan reads it, is the one the reference walk gives. -/
theorem markerOrdinal_toOption (mod : LoadedModule) (owners : List TypeDef) (m : Method)
    (marker : Attribute) :
    (markerOrdinal mod owners m marker).toOption = markedOrdinal? marker := by
  unfold markerOrdinal markedOrdinal?
  cases marker.lookup "Ordinal" with
  | none =>
      rfl
  | some v =>
      by_cases hkind : v.valueKind = .int
      · have hread : v.asInt = .ok v.int := by simp [AttrValue.asInt, hkind]
        by_cases hrange : 0 ≤ v.int.toInt ∧ v.int.toInt ≤ 65535
        · have hfits : ¬ (v.int.toInt < 0 ∨ v.int.toInt > 65535) := by omega
          simp only [hread, hkind, hrange, and_self, if_true, Bool.or_eq_true, decide_eq_true_eq,
            hfits, if_false]
          rfl
        · have hout : v.int.toInt < 0 ∨ v.int.toInt > 65535 := by omega
          simp only [hread, hkind, hrange, and_false, if_false, Bool.or_eq_true,
            decide_eq_true_eq, hout, if_true]
          rfl
      · have hread : v.asInt = .error (.reason ("expected int argument, got " ++
            v.valueKind.word)) := by
          simp [AttrValue.asInt, hkind]
        simp only [hread, hkind, false_and, if_false]
        rfl

/-- A chosen method's candidate is what reading its marker gives. -/
theorem markedCandidate?_eq (mod : LoadedModule) (owners : List TypeDef) (m : Method)
    (marker : Attribute) :
    markedCandidate? (mod, owners, m, marker) =
      (readMarker mod owners m marker).toOption.map fun read => ⟨mod, owners, m, read.1, read.2⟩ := by
  rw [markedCandidate?, ← markerName_toOption mod, ← markerOrdinal_toOption mod owners m]
  unfold readMarker
  cases markerName mod owners m marker <;> cases markerOrdinal mod owners m marker <;> rfl

/-! ### The step lemma -/

/-- The scan's marker types are the reference walk's, so it finds the same first marker. -/
theorem markerOf_markerSet (markers : List String) (m : Method) :
    markerOf (markerSet markers) m = firstMarker markers m := by
  unfold markerOf markerSet firstMarker
  cases markers <;> simp

/-- A method passes the scan's checks exactly when it is exportable. -/
theorem ineligibility_eq_none_iff (owners : List TypeDef) (m : Method) :
    ineligibility owners m = none ↔ Exportable owners m := by
  unfold ineligibility Exportable
  -- the four checks on the method itself, in the order the scan makes them
  split
  · simp_all
  split
  · simp_all
  split
  · simp_all
  split
  · simp_all
  -- then the search for an enclosing type that is not public
  split
  · rename_i t hfound
    have hmem := List.mem_of_find?_eq_some hfound
    have hprivate : ¬ t.visibility = visibilityPublic := by simpa using List.find?_some hfound
    simp only [reduceCtorEq, false_iff]
    intro ⟨_, _, _, _, hpublic⟩
    exact hprivate (hpublic t hmem)
  · rename_i hfound
    simp_all [List.find?_eq_none]

/-- No chosen candidate carries the name exactly when looking the name up finds none. -/
theorem find?_name_eq_none_iff (cs : List Candidate) (name : String) :
    cs.find? (·.name == name) = none ↔ name ∉ cs.map (·.name) := by
  simp [List.find?_eq_none]

/-- The step lemma: what one visit does to the candidates chosen so far.  A visit the walk does
not choose leaves them as they are; a chosen one fails when its marker cannot be read or its
name was chosen before, and otherwise adds its candidate at the end. -/
theorem ScanState.visit_chosen (markers : List String) (s : ScanState) {v : Visit}
    (hv : v.crashes = false) :
    (s.visit (markerSet markers) v).toOption.map ScanState.chosen =
      match v.reached?.bind (choose markers) with
      | none => some s.chosen
      | some picked => (markedCandidate? picked).bind fun c =>
          if c.name ∈ s.chosen.map (·.name) then none else some (s.chosen ++ [c]) := by
  cases v with
  | emptyInGeneric =>
      simp [Visit.crashes] at hv
  | inGeneric mod owners m =>
      simp only [ScanState.visit, Visit.reached?, Option.bind_none]
      cases markerOf (markerSet markers) m <;> rfl
  | method mod owners m =>
      simp only [Visit.reached?, Option.bind_some, choose, ScanState.visit, markerOf_markerSet]
      cases hmarker : firstMarker markers m with
      | none =>
          simp only [Option.map_none, ite_self]
          rfl
      | some marker =>
          cases heligible : ineligibility owners m with
          | some reason =>
              have hnot : ¬ Exportable owners m := by
                rw [← ineligibility_eq_none_iff, heligible]
                simp
              simp only [hnot, if_false]
              rfl
          | none =>
              have hyes : Exportable owners m := (ineligibility_eq_none_iff owners m).1 heligible
              simp only [hyes, if_true, Option.map_some, markedCandidate?_eq]
              cases hread : readMarker mod owners m marker with
              | error e =>
                  rfl
              | ok read =>
                  obtain ⟨name, ordinal⟩ := read
                  simp only [Except.toOption, Option.map_some, Option.bind_some]
                  by_cases hnew : name ∈ s.chosen.map (·.name)
                  · have hfound : s.chosen.find? (·.name == name) ≠ none :=
                      fun h => (find?_name_eq_none_iff s.chosen name).1 h hnew
                    obtain ⟨prev, hprev⟩ := Option.ne_none_iff_exists'.1 hfound
                    simp only [hnew, if_true, bind, Except.bind, hprev]
                    rfl
                  · have hfound := (find?_name_eq_none_iff s.chosen name).2 hnew
                    simp only [hnew, if_false, bind, Except.bind, hfound]
                    rfl

/-! ### The run lemma -/

/-- The candidates a run of visits ends with, or none when the run stops on a fault. -/
def runChosen (ms : List String) (s : ScanState) (vs : List Visit) : Option (List Candidate) :=
  match runVisits ms s vs with
  | (s', none) => some s'.chosen
  | (_, some _) => none

/-- A run goes on from the state the first visit leaves, and stops when that visit fails. -/
theorem runChosen_cons (ms : List String) (s : ScanState) (v : Visit) (rest : List Visit) :
    runChosen ms s (v :: rest) =
      match s.visit ms v with
      | .ok s' => runChosen ms s' rest
      | .error _ => none := by
  unfold runChosen
  rw [runVisits]
  cases s.visit ms v <;> rfl

/-- A visit whose result keeps some candidates succeeded, leaving those candidates. -/
theorem visit_eq_ok_of_chosen {ms : List String} {s : ScanState} {v : Visit}
    {chosen : List Candidate} (h : (s.visit ms v).toOption.map ScanState.chosen = some chosen) :
    ∃ s', s.visit ms v = .ok s' ∧ s'.chosen = chosen := by
  cases hvisit : s.visit ms v with
  | error f =>
      rw [hvisit] at h
      cases h
  | ok s' =>
      rw [hvisit] at h
      exact ⟨s', rfl, Option.some.inj h⟩

/-- A visit whose result keeps no candidates failed. -/
theorem visit_eq_error_of_none {ms : List String} {s : ScanState} {v : Visit}
    (h : (s.visit ms v).toOption.map ScanState.chosen = none) :
    ∃ f, s.visit ms v = .error f := by
  cases hvisit : s.visit ms v with
  | error f =>
      exact ⟨f, rfl⟩
  | ok s' =>
      rw [hvisit] at h
      cases h

/-- The run lemma: a run of visits chooses, after the candidates it starts with, the chosen
methods of the visits as their markers read, and fails exactly when a marker cannot be read or
a name comes twice.  The invariant is that the names chosen so far are distinct. -/
theorem runChosen_eq (markers : List String) (vs : List Visit)
    (hcrash : ∀ v ∈ vs, v.crashes = false) (s : ScanState)
    (hdistinct : (s.chosen.map (·.name)).Nodup) :
    runChosen (markerSet markers) s vs =
      ((vs.filterMap fun v => v.reached?.bind (choose markers)).mapM markedCandidate?).bind
        fun cs => if ((s.chosen ++ cs).map (·.name)).Nodup then some (s.chosen ++ cs) else none := by
  induction vs generalizing s with
  | nil =>
      simp [runChosen, runVisits, hdistinct]
  | cons v rest ih =>
      have hstep := ScanState.visit_chosen markers s (hcrash v List.mem_cons_self)
      have hrest : ∀ v ∈ rest, v.crashes = false := fun v hv => hcrash v (List.mem_cons_of_mem _ hv)
      rw [runChosen_cons]
      cases hpicked : v.reached?.bind (choose markers) with
      | none =>
          -- a visit the walk does not choose: the state goes on with the same candidates
          rw [hpicked] at hstep
          obtain ⟨s', hvisit, hsame⟩ := visit_eq_ok_of_chosen hstep
          rw [hvisit]
          simp only [List.filterMap_cons, hpicked]
          rw [ih hrest s' (hsame ▸ hdistinct), hsame]
      | some picked =>
          rw [hpicked] at hstep
          dsimp only at hstep
          simp only [List.filterMap_cons, hpicked, List.mapM_cons]
          cases hread : markedCandidate? picked with
          | none =>
              -- a marker that cannot be read stops the scan
              rw [hread, Option.bind_none] at hstep
              obtain ⟨f, hvisit⟩ := visit_eq_error_of_none hstep
              rw [hvisit]
              rfl
          | some c =>
              rw [hread, Option.bind_some] at hstep
              by_cases hnew : c.name ∈ s.chosen.map (·.name)
              · -- a name chosen before stops the scan, and the names cannot all be distinct
                rw [if_pos hnew] at hstep
                obtain ⟨f, hvisit⟩ := visit_eq_error_of_none hstep
                rw [hvisit]
                cases (rest.filterMap fun v => v.reached?.bind (choose markers)).mapM
                    markedCandidate? with
                | none => rfl
                | some cs =>
                    have hrepeat : ¬ (s.chosen.map (·.name) ++ c.name :: cs.map (·.name)).Nodup := by
                      rw [List.nodup_append]
                      rintro ⟨-, -, hdisjoint⟩
                      exact hdisjoint c.name hnew c.name List.mem_cons_self rfl
                    simp [hrepeat]
              · -- a new name: the candidate joins those chosen, and the run goes on
                rw [if_neg hnew] at hstep
                obtain ⟨s', hvisit, hjoined⟩ := visit_eq_ok_of_chosen hstep
                have hdistinct' : (s'.chosen.map (·.name)).Nodup := by
                  rw [hjoined, List.map_append, List.nodup_append]
                  refine ⟨hdistinct, by simp, ?_⟩
                  intro a ha b hb hab
                  simp only [List.map_cons, List.map_nil, List.mem_singleton] at hb
                  exact hnew (hb ▸ hab ▸ ha)
                rw [hvisit]
                dsimp only
                rw [ih hrest s' hdistinct', hjoined]
                cases (rest.filterMap fun v => v.reached?.bind (choose markers)).mapM
                    markedCandidate? <;>
                  simp

/-! ### The scan -/

/-- The scan answers with what its run of visits ends with, or with the fault it stops on. -/
theorem scanModules_result (mods : List LoadedModule) (markers : List String) :
    (∀ cs, (scanModules mods markers).2 = .ok cs ↔
      runChosen (markerSet markers) ⟨[], []⟩ (walkVisits mods) = some cs) ∧
    ((∃ f, (scanModules mods markers).2 = .error f) ↔
      runChosen (markerSet markers) ⟨[], []⟩ (walkVisits mods) = none) := by
  unfold scanModules runChosen
  cases runVisits (markerSet markers) ⟨[], []⟩ (walkVisits mods) with
  | mk s failure =>
      cases failure with
      | none => simp
      | some f => simp

/-- The reference scan is the scan's run of visits, started with no candidate, when every
entry inside a generic definition holds a method. -/
theorem referenceScan_eq_runChosen {mods : List LoadedModule} (markers : List String)
    (hfull : ∀ e ∈ methodEntries mods, e.inGeneric = true → e.method.isSome) :
    referenceScan mods markers = runChosen (markerSet markers) ⟨[], []⟩ (walkVisits mods) := by
  rw [runChosen_eq markers (walkVisits mods) (walkVisits_no_crash hfull) ⟨[], []⟩ List.nodup_nil,
    walkVisits_chosen]
  simp [referenceScan]

/-- The scan follows the reference walk, for all modules and marker types whose generic type
definitions hold no empty method entry: it succeeds exactly when the reference scan does, with
the same candidates (the chosen methods in walk order, each once, named and numbered by their
first markers, with distinct names), and fails exactly when, along the walk, a chosen marker
cannot be read or a chosen method gets a name chosen before. -/
theorem scanModules_follows_walk (mods : List LoadedModule) (markers : List String)
    (hfull : ∀ e ∈ methodEntries mods, e.inGeneric = true → e.method.isSome) :
    (∀ cs, (scanModules mods markers).2 = .ok cs ↔ referenceScan mods markers = some cs) ∧
    ((∃ f, (scanModules mods markers).2 = .error f) ↔ referenceScan mods markers = none) := by
  rw [referenceScan_eq_runChosen markers hfull]
  exact scanModules_result mods markers

/-- A public static method `M` whose marker gives no name. -/
def bareMarkedMethod : Method :=
  { Method.blank with
    name := "M"
    visibility := visibilityPublic
    isStatic := true
    attributes := [⟨defaultMarker, [], []⟩] }

/-- A public type with an empty namespace and an empty name that declares `bareMarkedMethod`. -/
def unnamedType : TypeDef :=
  { TypeDef.blank with visibility := visibilityPublic, methods := [some bareMarkedMethod] }

/-- A module whose only type is `unnamedType`. -/
def unnamedTypeModule : LoadedModule :=
  { (default : LoadedModule) with image := { Image.blank with types := [some unnamedType] } }

/-- Every entry of `unnamedTypeModule` lies outside generic definitions. -/
theorem unnamedTypeModule_full :
    ∀ e ∈ methodEntries [unnamedTypeModule], e.inGeneric = true → e.method.isSome := by
  decide

/-- The scan of `unnamedTypeModule` follows the reference walk. -/
theorem unnamed_type_scan_follows_walk :
    (∀ e ∈ methodEntries [unnamedTypeModule], e.inGeneric = true → e.method.isSome) ∧
      (∀ cs, (scanModules [unnamedTypeModule] []).2 = .ok cs ↔
        referenceScan [unnamedTypeModule] [] = some cs) ∧
      ((∃ f, (scanModules [unnamedTypeModule] []).2 = .error f) ↔
        referenceScan [unnamedTypeModule] [] = none) :=
  ⟨unnamedTypeModule_full, scanModules_follows_walk [unnamedTypeModule] [] unnamedTypeModule_full⟩

/-- A method of a type whose namespace and name are empty is exported under its bare name: its
declaring name is empty, so no dot is put in front of the method name. -/
theorem scan_unnamed_type_bare_name :
    ∃ cs, (scanModules [unnamedTypeModule] []).2 = .ok cs ∧
      cs.map (fun c => (c.owners.length, c.name, declaringName c.owners ++ "." ++ c.method.name)) =
        [(1, "M", ".M")] := by
  have hreference : (referenceScan [unnamedTypeModule] []).map
      (fun cs => cs.map fun c => (c.owners.length, c.name, declaringName c.owners ++ "." ++ c.method.name)) =
        some [(1, "M", ".M")] := by
    decide
  obtain ⟨cs, hcs, hnames⟩ := Option.map_eq_some_iff.1 hreference
  refine ⟨cs, ?_, hnames⟩
  rw [(scanModules_result _ _).1, ← referenceScan_eq_runChosen [] unnamedTypeModule_full]
  exact hcs

end NativeExports

import Mathlib
import NativeExports.Proofs.CandidateScan
import NativeExports.Proofs.ExceptSteps
/-!
Purpose: what a scan reports along its walk, and where it stops.

The scan takes the method entries in walk order (`methodEntries`).  It reports a marked method
inside a generic type definition as ignored, and a marked method outside them that cannot be
exported with the first condition it fails; other entries give no finding.  It stops at the
first entry that stops it: an empty entry inside a generic definition, where looking for a
marker reads through nothing and crashes, or a chosen method whose marker cannot be read or whose
export name a method chosen before it already has.  The findings are those of the entries
before that one, in walk order (`scan_findings_in_walk_order`), and the scan crashes exactly
when that entry is an empty one inside a generic definition
(`scan_crashes_only_on_empty_generic_entry`).

The proof follows the shape of the candidate scan's: a step lemma for one entry
(`ScanState.enter_spec`), folded over the entries by the run lemma (`runVisits_entries`), whose
invariant is that the candidates chosen so far are those of the entries already passed.
-/

namespace NativeExports

/-! ### What an entry gives -/

/-- The conditions a method must meet to be exported, in the order they are checked, each with
the reason reported when it fails: static, not generic, a fixed argument list, public, and every
enclosing type public, outermost first. -/
def exportConditions (owners : List TypeDef) (m : Method) : List (Bool × String) :=
  [(m.isStatic, "it is an instance method"), (!m.isGeneric, "it is generic"),
    (m.callConv != callVarArg, "it takes a variable argument list"),
    (m.visibility == visibilityPublic, "it is not visible outside its module")] ++
  owners.map fun t => (t.visibility == visibilityPublic,
    "its declaring type " ++ t.name ++ " is not visible outside its module")

/-- The reason of the first condition a method fails, none when it meets them all. -/
def firstFailure (owners : List TypeDef) (m : Method) : Option String :=
  ((exportConditions owners m).find? (!·.1)).map (·.2)

/-- The finding the scan reports for an entry: a marked method inside a generic definition is
ignored, and so is a marked method outside them that fails a condition, reported with the first
it fails.  An empty entry, an unmarked method and a method that can be exported give none. -/
def MethodEntry.finding? (markers : List String) (e : MethodEntry) : Option Finding :=
  match e.method with
  | none => none
  | some m =>
    (firstMarker markers m).bind fun _ =>
      if e.inGeneric then
        some ⟨Code.markInGenericType, .warning, entityName e.mod.name e.owners m ++
          " is marked for export inside generic type " ++ ((e.owners.getLast?.map (·.name)).getD "") ++
            "; ignored"⟩
      else (firstFailure e.owners m).map fun reason =>
        ⟨Code.ineligibleMark, .warning, entityName e.mod.name e.owners m ++
          " is marked for export but " ++ reason ++ "; ignored"⟩

/-- The method an entry offers for export, with its first marker: a method outside generic
definitions that the walk chooses. -/
def MethodEntry.chosen? (markers : List String) (e : MethodEntry) :
    Option (LoadedModule × List TypeDef × Method × Attribute) :=
  if e.inGeneric then none else e.method.bind fun m => choose markers (e.mod, e.owners, m)

/-- The candidates chosen along some entries, as their markers read. -/
def chosenAlong (markers : List String) (es : List MethodEntry) : List Candidate :=
  (es.filterMap (MethodEntry.chosen? markers)).filterMap markedCandidate?

/-- Whether an entry stops the scan, given the names chosen before it: an empty entry inside a
generic definition crashes it, and a chosen method stops it when its marker cannot be read or
its name is among those chosen. -/
def MethodEntry.StopsScan (markers : List String) (names : List String) (e : MethodEntry) : Prop :=
  (e.inGeneric = true ∧ e.method = none) ∨
    ∃ picked, e.chosen? markers = some picked ∧
      ∀ c, markedCandidate? picked = some c → c.name ∈ names

/-- The scan passes every entry of a list, each given the candidates chosen along `pre` and the
entries before it. -/
def Passes (markers : List String) (pre : List MethodEntry) : List MethodEntry → Prop
  | [] => True
  | e :: rest =>
    ¬ e.StopsScan markers ((chosenAlong markers pre).map (·.name)) ∧ Passes markers (pre ++ [e]) rest

/-- A fault the scan reports as a finding of its own: a marker that cannot be read, or an export
name declared twice. -/
def Fault.IsScanError (f : Fault) : Prop :=
  ∃ code message cause, f = .finding code .error message cause ∧
    (code = Code.badAttribute ∨ code = Code.duplicateExportName)

/-- A fault reporting a marker that cannot be read: an error finding with `Code.badAttribute`. -/
def Fault.IsMarkerError (f : Fault) : Prop :=
  ∃ cause message, f = .wrap Code.badAttribute cause message

theorem Fault.IsMarkerError.scanError {f : Fault} (h : f.IsMarkerError) : f.IsScanError := by
  obtain ⟨cause, message, rfl⟩ := h
  exact ⟨_, _, _, rfl, .inl rfl⟩

theorem Fault.IsMarkerError.code_eq {f : Fault} (h : f.IsMarkerError) :
    f.code = Code.badAttribute := by
  obtain ⟨cause, message, rfl⟩ := h
  rfl

/-- The fault the scan stops with at an entry that stops it: the crash at an empty entry inside
a generic definition, and an error finding at any other. -/
def MethodEntry.FaultOf (e : MethodEntry) (f : Fault) : Prop :=
  if e.inGeneric = true ∧ e.method = none then f = Fault.nilDereference else f.IsScanError

/-! ### Conditions and markers -/

theorem firstFailure_owners (owners : List TypeDef) :
    ((owners.map fun t => (t.visibility == visibilityPublic,
      "its declaring type " ++ t.name ++ " is not visible outside its module")).find? (!·.1)).map
        (·.2) =
    (owners.find? (·.visibility ≠ visibilityPublic)).map fun t =>
      "its declaring type " ++ t.name ++ " is not visible outside its module" := by
  simp only [List.find?_map, Option.map_map, Function.comp_def]
  congr 2
  funext t
  rw [Bool.eq_iff_iff]
  simp

/-- The scan's checks report the first failing condition. -/
theorem ineligibility_eq_firstFailure (owners : List TypeDef) (m : Method) :
    ineligibility owners m = firstFailure owners m := by
  unfold ineligibility firstFailure exportConditions
  rw [List.find?_append, Option.map_or, firstFailure_owners]
  generalize owners.find? (·.visibility ≠ visibilityPublic) = found
  -- the four checks on the method itself, in order, then the enclosing types
  by_cases hstatic : m.isStatic = true
  · by_cases hgeneric : m.isGeneric = true
    · simp [hstatic, hgeneric]
    · by_cases hvararg : m.callConv = callVarArg
      · simp [hstatic, hgeneric, hvararg]
      · by_cases hpublic : m.visibility = visibilityPublic
        · simp [hstatic, hgeneric, hvararg, hpublic]
          cases found <;> rfl
        · simp [hstatic, hgeneric, hvararg, hpublic]
  · simp [hstatic]

theorem chosenAlong_append_single (markers : List String) (pre : List MethodEntry)
    (e : MethodEntry) :
    chosenAlong markers (pre ++ [e]) =
      chosenAlong markers pre ++ ((e.chosen? markers).bind markedCandidate?).toList := by
  unfold chosenAlong
  cases h : e.chosen? markers with
  | none => simp [List.filterMap_append, h]
  | some picked => cases hc : markedCandidate? picked <;> simp [List.filterMap_append, h, hc]

theorem markerName_error {mod : LoadedModule} {owners : List TypeDef} {m : Method}
    {marker : Attribute} {f : Fault} (h : markerName mod owners m marker = .error f) :
    f.IsMarkerError := by
  unfold markerName at h
  cases hlookup : marker.lookup "Name" with
  | none =>
    simp only [hlookup] at h
    cases h
  | some v =>
    cases hread : v.asString with
    | ok given =>
      simp only [hlookup, hread] at h
      cases h
    | error e =>
      simp only [hlookup, hread] at h
      cases h
      exact ⟨_, _, rfl⟩

theorem markerOrdinal_error {mod : LoadedModule} {owners : List TypeDef} {m : Method}
    {marker : Attribute} {f : Fault} (h : markerOrdinal mod owners m marker = .error f) :
    f.IsMarkerError := by
  unfold markerOrdinal at h
  cases hlookup : marker.lookup "Ordinal" with
  | none =>
    simp only [hlookup] at h
    cases h
  | some v =>
    cases hread : v.asInt with
    | error e =>
      simp only [hlookup, hread] at h
      cases h
      exact ⟨_, _, rfl⟩
    | ok raw =>
      simp only [hlookup, hread] at h
      split at h
      · cases h
        exact ⟨_, _, rfl⟩
      · cases h

/-- A marker that cannot be read fails the scan with a malformed attribute. -/
theorem readMarker_error {mod : LoadedModule} {owners : List TypeDef} {m : Method}
    {marker : Attribute} {f : Fault} (h : readMarker mod owners m marker = .error f) :
    f.IsMarkerError := by
  unfold readMarker at h
  cases hname : markerName mod owners m marker with
  | error e =>
    rw [hname] at h
    cases h
    exact markerName_error hname
  | ok name =>
    cases hordinal : markerOrdinal mod owners m marker with
    | error e =>
      simp only [hname, hordinal] at h
      cases h
      exact markerOrdinal_error hordinal
    | ok ordinal =>
      simp only [hname, hordinal] at h
      cases h

/-! ### The step lemma -/

/-- The scan's step at an entry: the visit it makes of it, if it makes one. -/
def ScanState.enter (markers : List String) (s : ScanState) (e : MethodEntry) :
    Except Fault ScanState :=
  match e.visit? with
  | none => .ok s
  | some v => s.visit markers v

theorem runVisits_entries_cons (ms : List String) (s : ScanState) (e : MethodEntry)
    (es : List MethodEntry) :
    runVisits ms s ((e :: es).filterMap MethodEntry.visit?) =
      match s.enter ms e with
      | .ok s' => runVisits ms s' (es.filterMap MethodEntry.visit?)
      | .error f => (s, some f) := by
  unfold ScanState.enter
  cases hv : e.visit? with
  | none => simp [hv]
  | some v =>
    simp only [List.filterMap_cons, hv]
    cases hvisit : s.visit ms v <;> simp [runVisits, hvisit]

theorem Fault.nilDereference_not_scanError : ¬ Fault.nilDereference.IsScanError := by
  rintro ⟨_, _, _, h, -⟩
  cases h

/-- The fault an entry gives is the crash at an empty entry inside a generic definition, and an
error finding at any other. -/
theorem MethodEntry.FaultOf.crash_or_finding {e : MethodEntry} {f : Fault} (h : e.FaultOf f) :
    (e.inGeneric = true ∧ e.method = none) ∧ f = Fault.nilDereference ∨
      ¬ (e.inGeneric = true ∧ e.method = none) ∧ f.IsScanError := by
  unfold MethodEntry.FaultOf at h
  split at h
  · next hempty => exact .inl ⟨hempty, h⟩
  · next hother => exact .inr ⟨hother, h⟩

/-- At a chosen method the scan reads the marker and checks the name against those chosen: it
fails with an error finding when the marker cannot be read or the name was chosen before, and
otherwise adds the candidate. -/
theorem ScanState.visit_chosen_method (markers : List String) (s : ScanState) (mod : LoadedModule)
    (owners : List TypeDef) (m : Method) (marker : Attribute) (hyes : Exportable owners m)
    (hmarker : firstMarker markers m = some marker) :
    match s.visit (markerSet markers) (.method mod owners m) with
    | .ok s' => ∃ c, markedCandidate? (mod, owners, m, marker) = some c ∧
        c.name ∉ s.chosen.map (·.name) ∧ s' = { s with chosen := s.chosen ++ [c] }
    | .error f => f.IsScanError ∧
        ∀ c, markedCandidate? (mod, owners, m, marker) = some c → c.name ∈ s.chosen.map (·.name) := by
  have heligible : ineligibility owners m = none := (ineligibility_eq_none_iff owners m).2 hyes
  simp only [ScanState.visit, markerOf_markerSet, hmarker, heligible, markedCandidate?_eq]
  cases hread : readMarker mod owners m marker with
  | error f =>
    -- the marker cannot be read
    simp only [except_error_bind]
    exact ⟨(readMarker_error hread).scanError, by simp [Except.toOption]⟩
  | ok read =>
    obtain ⟨name, ordinal⟩ := read
    simp only [except_ok_bind, Except.toOption, Option.map_some]
    cases hfound : s.chosen.find? (·.name == name) with
    | some prev =>
      -- a name chosen before: a duplicate
      have hmem : name ∈ s.chosen.map (·.name) := by
        refine Decidable.byContradiction fun hnew => ?_
        have hnone := (find?_name_eq_none_iff s.chosen name).2 hnew
        rw [hfound] at hnone
        cases hnone
      simp only [throw_except]
      exact ⟨⟨_, _, _, rfl, .inr rfl⟩, by simpa using hmem⟩
    | none =>
      exact ⟨_, rfl, (find?_name_eq_none_iff s.chosen name).1 hfound, rfl⟩

/-- What the scan's step at an entry does with the result it has: at an entry that does not
stop it, it goes on with the entry's finding and candidate added; at one that stops it, it fails
with the fault the entry gives. -/
def ScanState.StepSpec (markers : List String) (s : ScanState) (e : MethodEntry) :
    Except Fault ScanState → Prop
  | .ok s' => ¬ e.StopsScan markers (s.chosen.map (·.name)) ∧
      s'.findings = s.findings ++ (e.finding? markers).toList ∧
      s'.chosen = s.chosen ++ ((e.chosen? markers).bind markedCandidate?).toList
  | .error f => e.StopsScan markers (s.chosen.map (·.name)) ∧ e.FaultOf f

/-- The step at a method the walk chooses: it gives no finding, and it stops exactly when the
marker cannot be read or the name was chosen before. -/
theorem ScanState.enter_chosen_spec (markers : List String) (s : ScanState) (mod : LoadedModule)
    (owners : List TypeDef) (m : Method) (marker : Attribute) (hyes : Exportable owners m)
    (hmarker : firstMarker markers m = some marker) :
    s.StepSpec markers ⟨mod, owners, false, some m⟩
      (s.enter (markerSet markers) ⟨mod, owners, false, some m⟩) := by
  have hstep := ScanState.visit_chosen_method markers s mod owners m marker hyes hmarker
  have hchosen : MethodEntry.chosen? markers ⟨mod, owners, false, some m⟩ =
      some (mod, owners, m, marker) := by
    simp [MethodEntry.chosen?, choose, hyes, hmarker]
  have hfinding : MethodEntry.finding? markers ⟨mod, owners, false, some m⟩ = none := by
    have heligible : firstFailure owners m = none := by
      rw [← ineligibility_eq_firstFailure]
      exact (ineligibility_eq_none_iff owners m).2 hyes
    simp [MethodEntry.finding?, hmarker, heligible]
  simp only [ScanState.enter, MethodEntry.visit?]
  cases hvisit : s.visit (markerSet markers) (.method mod owners m) with
  | error f =>
    rw [hvisit] at hstep
    obtain ⟨herror, hdup⟩ := hstep
    exact ⟨.inr ⟨_, hchosen, hdup⟩, by simpa [MethodEntry.FaultOf] using herror⟩
  | ok s' =>
    rw [hvisit] at hstep
    obtain ⟨c, hc, hnew, rfl⟩ := hstep
    refine ⟨?_, by simp [hfinding], by simp [hchosen, hc]⟩
    rintro (⟨hgeneric, -⟩ | ⟨picked, hpicked, hname⟩)
    · cases hgeneric
    · rw [hchosen] at hpicked
      cases hpicked
      exact hnew (hname c hc)

/-- The step lemma: the scan's step at any entry does what `ScanState.StepSpec` says. -/
theorem ScanState.enter_spec (markers : List String) (s : ScanState) (e : MethodEntry) :
    s.StepSpec markers e (s.enter (markerSet markers) e) := by
  obtain ⟨mod, owners, inGeneric, method⟩ := e
  cases inGeneric with
  | true =>
    cases method with
    | none =>
      -- an empty entry inside a generic definition: the crash
      exact ⟨.inl ⟨rfl, rfl⟩, by simp [MethodEntry.FaultOf]⟩
    | some m =>
      -- a method inside a generic definition is only ever reported
      simp only [ScanState.enter, MethodEntry.visit?, ScanState.visit, markerOf_markerSet]
      cases hmarker : firstMarker markers m <;>
        simp [ScanState.StepSpec, MethodEntry.StopsScan, MethodEntry.chosen?,
          MethodEntry.finding?, hmarker]
  | false =>
    cases method with
    | none =>
      simp [ScanState.StepSpec, ScanState.enter, MethodEntry.visit?, MethodEntry.StopsScan,
        MethodEntry.chosen?, MethodEntry.finding?]
    | some m =>
      cases hmarker : firstMarker markers m with
      | none =>
        simp [ScanState.StepSpec, ScanState.enter, MethodEntry.visit?, ScanState.visit,
          markerOf_markerSet, MethodEntry.StopsScan, MethodEntry.chosen?, MethodEntry.finding?,
          choose, hmarker]
      | some marker =>
        cases heligible : ineligibility owners m with
        | some reason =>
          -- marked but not exportable: reported with the first failing condition
          have hnot : ¬ Exportable owners m := by
            rw [← ineligibility_eq_none_iff, heligible]
            simp
          simp only [ScanState.enter, MethodEntry.visit?, ScanState.visit, markerOf_markerSet,
            hmarker, heligible]
          rw [ineligibility_eq_firstFailure] at heligible
          simp [ScanState.StepSpec, MethodEntry.StopsScan, MethodEntry.chosen?,
            MethodEntry.finding?, choose, hnot, hmarker, heligible]
        | none =>
          exact ScanState.enter_chosen_spec markers s mod owners m marker
            ((ineligibility_eq_none_iff owners m).1 heligible) hmarker

/-! ### The run lemma -/

/-- The run lemma: a scan started with the candidates of the entries `pre` passes a prefix of
the entries, adding their findings in order, and stops at the next entry if one is left, with
the fault that entry gives. -/
theorem runVisits_entries (markers : List String) :
    ∀ (es pre : List MethodEntry) (s : ScanState), s.chosen = chosenAlong markers pre →
      ∃ before after, es = before ++ after ∧ Passes markers pre before ∧
        (∀ e ∈ after.head?,
          e.StopsScan markers ((chosenAlong markers (pre ++ before)).map (·.name))) ∧
        (runVisits (markerSet markers) s (es.filterMap MethodEntry.visit?)).1.findings =
          s.findings ++ before.filterMap (MethodEntry.finding? markers) ∧
        match after with
        | [] => (runVisits (markerSet markers) s (es.filterMap MethodEntry.visit?)).2 = none
        | e :: _ => ∃ f, (runVisits (markerSet markers) s (es.filterMap MethodEntry.visit?)).2 =
            some f ∧ e.FaultOf f
  | [], pre, s, _ => ⟨[], [], rfl, trivial, by simp, by simp [runVisits], rfl⟩
  | e :: es, pre, s, hs => by
    have hstep := ScanState.enter_spec markers s e
    rw [runVisits_entries_cons]
    cases henter : s.enter (markerSet markers) e with
    | error f =>
      -- the entry stops the scan, which keeps the findings it had
      rw [henter] at hstep
      obtain ⟨hstops, hfault⟩ := hstep
      refine ⟨[], e :: es, rfl, trivial, ?_, by simp, ⟨f, rfl, hfault⟩⟩
      simpa [← hs] using hstops
    | ok s' =>
      -- the entry is passed: the run goes on with its finding and candidate added
      rw [henter] at hstep
      obtain ⟨hpass, hfinding, hchosen⟩ := hstep
      have hs' : s'.chosen = chosenAlong markers (pre ++ [e]) := by
        rw [hchosen, hs, chosenAlong_append_single]
      obtain ⟨before, after, hes, hpasses, hhead, hfindings, hfault⟩ :=
        runVisits_entries markers es (pre ++ [e]) s' hs'
      refine ⟨e :: before, after, by rw [hes]; rfl, ⟨hs ▸ hpass, hpasses⟩, ?_, ?_, hfault⟩
      · simpa using hhead
      · rw [hfindings, hfinding]
        cases h : e.finding? markers <;> simp [h]

/-- The entries a scan passes are determined: two prefixes that the scan passes, each followed
by an entry that stops it or by nothing, are equal. -/
theorem passes_prefix_unique {markers : List String} :
    ∀ {pre b₁ a₁ b₂ a₂ : List MethodEntry}, b₁ ++ a₁ = b₂ ++ a₂ →
      Passes markers pre b₁ → Passes markers pre b₂ →
      (∀ e ∈ a₁.head?, e.StopsScan markers ((chosenAlong markers (pre ++ b₁)).map (·.name))) →
      (∀ e ∈ a₂.head?, e.StopsScan markers ((chosenAlong markers (pre ++ b₂)).map (·.name))) →
      b₁ = b₂
  | _, [], _, [], _, _, _, _, _, _ => rfl
  | pre, [], _, e :: b₂, _, h, _, hpass₂, hstop₁, _ => by
    rw [List.nil_append] at h
    subst h
    exact absurd (by simpa using hstop₁ e rfl) hpass₂.1
  | pre, e :: b₁, _, [], _, h, hpass₁, _, _, hstop₂ => by
    rw [List.nil_append] at h
    subst h
    exact absurd (by simpa using hstop₂ e rfl) hpass₁.1
  | pre, e₁ :: b₁, a₁, e₂ :: b₂, a₂, h, hpass₁, hpass₂, hstop₁, hstop₂ => by
    obtain ⟨rfl, htail⟩ := List.cons_eq_cons.1 h
    rw [passes_prefix_unique htail hpass₁.2 hpass₂.2 (by simpa using hstop₁) (by simpa using hstop₂)]

/-! ### The scan -/

theorem scanModules_fst (mods : List LoadedModule) (markers : List String) :
    (scanModules mods markers).1 =
      (runVisits (markerSet markers) ⟨[], []⟩ (walkVisits mods)).1.findings := by
  unfold scanModules
  cases runVisits (markerSet markers) ⟨[], []⟩ (walkVisits mods) with
  | mk s failure => cases failure <;> rfl

theorem scanModules_snd_error (mods : List LoadedModule) (markers : List String) (f : Fault) :
    (scanModules mods markers).2 = .error f ↔
      (runVisits (markerSet markers) ⟨[], []⟩ (walkVisits mods)).2 = some f := by
  unfold scanModules
  cases runVisits (markerSet markers) ⟨[], []⟩ (walkVisits mods) with
  | mk s failure => cases failure <;> simp

/-- The run over the entries of the modules, from a scan with nothing chosen. -/
theorem scan_entries (mods : List LoadedModule) (markers : List String) :
    ∃ before after, methodEntries mods = before ++ after ∧ Passes markers [] before ∧
      (∀ e ∈ after.head?, e.StopsScan markers ((chosenAlong markers before).map (·.name))) ∧
      (scanModules mods markers).1 = before.filterMap (MethodEntry.finding? markers) ∧
      match after with
      | [] => ∀ f, (scanModules mods markers).2 ≠ .error f
      | e :: _ => ∃ f, (scanModules mods markers).2 = .error f ∧ e.FaultOf f := by
  obtain ⟨before, after, hes, hpasses, hhead, hfindings, hfault⟩ :=
    runVisits_entries markers (methodEntries mods) [] ⟨[], []⟩ rfl
  rw [walkVisits_eq_entries] at hfindings hfault
  refine ⟨before, after, hes, hpasses, by simpa using hhead, ?_, ?_⟩
  · rw [scanModules_fst, hfindings, List.nil_append]
  · cases after with
    | nil => exact fun f h => by simp [(scanModules_snd_error mods markers f).1 h] at hfault
    | cons e rest =>
      obtain ⟨f, hf, hkind⟩ := hfault
      exact ⟨f, (scanModules_snd_error mods markers f).2 hf, hkind⟩

/-- The findings of a scan, for all modules and marker types: those of the entries before the
first entry that stops it (all entries when none does), in walk order, and the scan fails exactly
when an entry stops it. -/
theorem scan_findings_in_walk_order (mods : List LoadedModule) (markers : List String) :
    ∃ before after, methodEntries mods = before ++ after ∧ Passes markers [] before ∧
      (∀ e ∈ after.head?, e.StopsScan markers ((chosenAlong markers before).map (·.name))) ∧
      (scanModules mods markers).1 = before.filterMap (MethodEntry.finding? markers) ∧
      ((∃ f, (scanModules mods markers).2 = .error f) ↔ after ≠ []) := by
  obtain ⟨before, after, hes, hpasses, hhead, hfindings, hfault⟩ := scan_entries mods markers
  refine ⟨before, after, hes, hpasses, hhead, hfindings, ?_⟩
  cases after with
  | nil => simpa using hfault
  | cons e rest =>
    obtain ⟨f, hf, -⟩ := hfault
    simpa using ⟨f, hf⟩

/-- A scan that fails stops at the entry after those it passes, with the fault that entry
gives. -/
theorem scan_error_stops {mods : List LoadedModule} {markers : List String} {f : Fault}
    (hf : (scanModules mods markers).2 = .error f) :
    ∃ before e after, methodEntries mods = before ++ e :: after ∧ Passes markers [] before ∧
      e.FaultOf f := by
  obtain ⟨before, after, hes, hpasses, -, -, hfault⟩ := scan_entries mods markers
  cases after with
  | nil => exact absurd hf (hfault f)
  | cons e rest =>
    obtain ⟨f', hf', hkind⟩ := hfault
    rw [hf] at hf'
    cases hf'
    exact ⟨before, e, rest, hes, hpasses, hkind⟩

/-- An entry that stops the scan after entries it passes is where the scan fails. -/
theorem scan_stops_at {mods : List LoadedModule} {markers : List String}
    {before after : List MethodEntry} {e : MethodEntry}
    (hes : methodEntries mods = before ++ e :: after) (hpasses : Passes markers [] before)
    (hstops : e.StopsScan markers ((chosenAlong markers before).map (·.name))) :
    ∃ f, (scanModules mods markers).2 = .error f ∧ e.FaultOf f := by
  obtain ⟨before', after', hes', hpasses', hhead', -, hfault⟩ := scan_entries mods markers
  -- the scan passes exactly `before`, so it stops at `e`
  have hsame : before' = before :=
    passes_prefix_unique (hes'.symm.trans hes) hpasses' hpasses (by simpa using hhead')
      (by simpa using hstops)
  subst hsame
  have hafter : after' = e :: after := List.append_cancel_left (hes'.symm.trans hes)
  subst hafter
  exact hfault

/-- The scan crashes exactly when the first entry that stops it is an empty entry inside a
generic type definition; any other failure is an error finding.  So it never crashes on modules
whose generic definitions hold no empty method entry. -/
theorem scan_crashes_only_on_empty_generic_entry (mods : List LoadedModule)
    (markers : List String) :
    ((scanModules mods markers).2 = .error Fault.nilDereference ↔
      ∃ before e after, methodEntries mods = before ++ e :: after ∧ Passes markers [] before ∧
        e.inGeneric = true ∧ e.method = none) ∧
    (∀ f, (scanModules mods markers).2 = .error f → f = Fault.nilDereference ∨ f.IsScanError) ∧
    ((∀ e ∈ methodEntries mods, e.inGeneric = true → e.method.isSome) →
      ∀ f, (scanModules mods markers).2 = .error f → f.IsScanError) := by
  refine ⟨⟨fun h => ?_, ?_⟩, fun f hf => ?_, fun hfull f hf => ?_⟩
  · obtain ⟨before, e, after, hes, hpasses, hkind⟩ := scan_error_stops h
    rcases hkind.crash_or_finding with ⟨hempty, -⟩ | ⟨-, hfinding⟩
    · exact ⟨before, e, after, hes, hpasses, hempty⟩
    · exact absurd hfinding Fault.nilDereference_not_scanError
  · rintro ⟨before, e, after, hes, hpasses, hgeneric, hempty⟩
    -- an empty entry inside a generic definition stops the scan whatever was chosen before
    obtain ⟨f, hf, hkind⟩ := scan_stops_at hes hpasses (.inl ⟨hgeneric, hempty⟩)
    rw [MethodEntry.FaultOf, if_pos ⟨hgeneric, hempty⟩] at hkind
    exact hkind ▸ hf
  · obtain ⟨-, e, -, -, -, hkind⟩ := scan_error_stops hf
    rcases hkind.crash_or_finding with ⟨-, hcrash⟩ | ⟨-, hfinding⟩
    · exact .inl hcrash
    · exact .inr hfinding
  · obtain ⟨before, e, after, hes, -, hkind⟩ := scan_error_stops hf
    rcases hkind.crash_or_finding with ⟨hempty, -⟩ | ⟨-, hfinding⟩
    · have he : e ∈ methodEntries mods := by simp [hes]
      simpa [hempty.2] using hfull e he hempty.1
    · exact hfinding

/-- A generic type definition `Box` whose only method entry is empty. -/
def emptyEntryBox : TypeDef :=
  { TypeDef.blank with
    name := "Box"
    visibility := visibilityPublic
    genericParams := ["T"]
    methods := [none] }

/-- A module whose only type is `emptyEntryBox`. -/
def emptyEntryModule : LoadedModule :=
  { (default : LoadedModule) with image := { Image.blank with types := [some emptyEntryBox] } }

/-- The scan of a module whose generic type lists an empty method entry crashes. -/
theorem scan_crashes_on_empty_generic_entry :
    (scanModules [emptyEntryModule] []).2 = .error Fault.nilDereference := by
  simp [scanModules, walkVisits, moduleVisits, emptyEntryModule, Image.blank, emptyEntryBox,
    TypeDef.blank, methodVisits, nestedVisits, typeVisits, genericVisits, genericMethodVisits,
    genericNestedVisits, runVisits, ScanState.visit]

/-! ### The code the scan stops with -/

/-- The scan the reference walk describes, with the code of the fault that stops it: along the
chosen methods, a marker that cannot be read stops it with `Code.badAttribute` and a name chosen
before with `Code.duplicateExportName`; otherwise it ends with every candidate. -/
def referenceRun : List Candidate → List (LoadedModule × List TypeDef × Method × Attribute) →
    Except Code (List Candidate)
  | chosen, [] => .ok chosen
  | chosen, picked :: rest =>
    match markedCandidate? picked with
    | none => .error Code.badAttribute
    | some c =>
      if c.name ∈ chosen.map (·.name) then .error Code.duplicateExportName
      else referenceRun (chosen ++ [c]) rest

/-- What a run of visits answers: the candidates it ends with, or the fault that stops it. -/
def runResult (ms : List String) (s : ScanState) (vs : List Visit) : Except Fault (List Candidate) :=
  match runVisits ms s vs with
  | (s', none) => .ok s'.chosen
  | (_, some f) => .error f

theorem runResult_cons (ms : List String) (s : ScanState) (v : Visit) (rest : List Visit) :
    runResult ms s (v :: rest) =
      match s.visit ms v with
      | .ok s' => runResult ms s' rest
      | .error f => .error f := by
  unfold runResult
  rw [runVisits]
  cases s.visit ms v <;> rfl

/-- A method the walk chooses is exportable and carries the marker it is chosen with. -/
theorem choose_eq_some {markers : List String} {mod : LoadedModule} {owners : List TypeDef}
    {m : Method} {picked : LoadedModule × List TypeDef × Method × Attribute}
    (h : choose markers (mod, owners, m) = some picked) :
    Exportable owners m ∧ ∃ marker, firstMarker markers m = some marker ∧
      picked = (mod, owners, m, marker) := by
  simp only [choose] at h
  by_cases hyes : Exportable owners m
  · rw [if_pos hyes] at h
    cases hmarker : firstMarker markers m with
    | none =>
      rw [hmarker] at h
      cases h
    | some marker =>
      rw [hmarker] at h
      exact ⟨hyes, marker, rfl, (Option.some.inj h).symm⟩
  · rw [if_neg hyes] at h
    cases h

/-- The step lemma with codes: a visit the walk does not choose keeps the candidates; at a chosen
method the scan stops with `Code.badAttribute` when its marker cannot be read and with
`Code.duplicateExportName` when its name was chosen before, and otherwise adds its candidate. -/
theorem ScanState.visit_code (markers : List String) (s : ScanState) {v : Visit}
    (hv : v.crashes = false) :
    match v.reached?.bind (choose markers) with
    | none => ∃ s', s.visit (markerSet markers) v = .ok s' ∧ s'.chosen = s.chosen
    | some picked =>
      match markedCandidate? picked with
      | none => ∃ f, s.visit (markerSet markers) v = .error f ∧ f.code = Code.badAttribute
      | some c =>
        if c.name ∈ s.chosen.map (·.name) then
          ∃ f, s.visit (markerSet markers) v = .error f ∧ f.code = Code.duplicateExportName
        else ∃ s', s.visit (markerSet markers) v = .ok s' ∧ s'.chosen = s.chosen ++ [c] := by
  have hkeep := ScanState.visit_chosen markers s hv
  cases hpicked : v.reached?.bind (choose markers) with
  | none =>
    rw [hpicked] at hkeep
    exact visit_eq_ok_of_chosen hkeep
  | some picked =>
    -- only a method outside generic definitions is chosen
    cases v with
    | emptyInGeneric => cases hpicked
    | inGeneric mod owners m => cases hpicked
    | method mod owners m =>
      obtain ⟨hyes, marker, hmarker, rfl⟩ := choose_eq_some hpicked
      have heligible : ineligibility owners m = none := (ineligibility_eq_none_iff owners m).2 hyes
      dsimp only
      simp only [ScanState.visit, markerOf_markerSet, hmarker, heligible, markedCandidate?_eq]
      cases hread : readMarker mod owners m marker with
      | error f =>
        exact ⟨f, rfl, (readMarker_error hread).code_eq⟩
      | ok read =>
        obtain ⟨name, ordinal⟩ := read
        simp only [Except.toOption, Option.map_some, except_ok_bind]
        by_cases hnew : name ∈ s.chosen.map (·.name)
        · -- a name chosen before: a duplicate
          obtain ⟨prev, hprev⟩ := Option.ne_none_iff_exists'.1
            fun h => (find?_name_eq_none_iff s.chosen name).1 h hnew
          simp only [hnew, if_true, hprev, throw_except]
          exact ⟨_, rfl, rfl⟩
        · simp only [hnew, if_false, (find?_name_eq_none_iff s.chosen name).2 hnew]
          exact ⟨_, rfl, rfl⟩

/-- The run lemma with codes: a run of visits answers, with its fault reduced to its code, what
the reference run along the chosen methods answers, starting from the candidates it has. -/
theorem runResult_code (markers : List String) (vs : List Visit)
    (hcrash : ∀ v ∈ vs, v.crashes = false) (s : ScanState) :
    (runResult (markerSet markers) s vs).mapError Fault.code =
      referenceRun s.chosen (vs.filterMap fun v => v.reached?.bind (choose markers)) := by
  induction vs generalizing s with
  | nil =>
    rfl
  | cons v rest ih =>
    have hstep := ScanState.visit_code markers s (hcrash v List.mem_cons_self)
    have hrest : ∀ v ∈ rest, v.crashes = false := fun v hv => hcrash v (List.mem_cons_of_mem _ hv)
    rw [runResult_cons, List.filterMap_cons]
    cases hpicked : v.reached?.bind (choose markers) with
    | none =>
      rw [hpicked] at hstep
      obtain ⟨s', hvisit, hsame⟩ := hstep
      rw [hvisit, ← hsame]
      exact ih hrest s'
    | some picked =>
      rw [hpicked] at hstep
      dsimp only at hstep
      rw [referenceRun]
      cases hread : markedCandidate? picked with
      | none =>
        rw [hread] at hstep
        obtain ⟨f, hvisit, hcode⟩ := hstep
        rw [hvisit, mapError_except_error, hcode]
      | some c =>
        rw [hread] at hstep
        dsimp only at hstep ⊢
        by_cases hnew : c.name ∈ s.chosen.map (·.name)
        · rw [if_pos hnew] at hstep ⊢
          obtain ⟨f, hvisit, hcode⟩ := hstep
          rw [hvisit, mapError_except_error, hcode]
        · rw [if_neg hnew] at hstep ⊢
          obtain ⟨s', hvisit, hjoined⟩ := hstep
          rw [hvisit, ← hjoined]
          exact ih hrest s'

/-- The scan stops with the code the reference walk gives, for all modules whose generic type
definitions hold no empty method entry and all marker types: along the chosen methods in walk
order, at the first whose marker cannot be read (`Code.badAttribute`) or whose name was chosen
before (`Code.duplicateExportName`), and otherwise it answers with every candidate. -/
theorem scanModules_code (mods : List LoadedModule) (markers : List String)
    (hfull : ∀ e ∈ methodEntries mods, e.inGeneric = true → e.method.isSome) :
    (scanModules mods markers).2.mapError Fault.code = referenceRun [] (chosenMethods markers mods) := by
  have hscan : (scanModules mods markers).2 =
      runResult (markerSet markers) ⟨[], []⟩ (walkVisits mods) := by
    unfold scanModules runResult
    cases runVisits (markerSet markers) ⟨[], []⟩ (walkVisits mods) with
    | mk s failure => cases failure <;> rfl
  rw [hscan, runResult_code markers (walkVisits mods) (walkVisits_no_crash hfull), walkVisits_chosen]

end NativeExports

import Mathlib
import NativeExports.Session
import NativeExports.Proofs.ExceptSteps
/-!
Purpose: what a collection of findings keeps, answers and counts over every sequence of offers,
and what a prepared session reports.

`firstArrivals held fs` is a reference scan that knows nothing of limits: the findings of `fs`
whose key (code identifier and message) neither `held` nor an earlier finding of `fs` has, in
the order they arrive.  Offering findings one by one keeps the collection's own items followed
by as many first arrivals as it has room for (`offerAll_items`); from an empty collection with
limit `L` those are the first `L` first arrivals, or all of them when `L` is not positive.  An
offer answers `true` exactly when it appends the finding offered (`add_items`), and an empty
offer changes nothing.

A finding refused because the collection is full is not remembered, so each later offer of it
is refused and counted again: the count of dropped findings is the number of offers whose
finding the collection does not hold at the end (`offerAll_dropped`).  It exceeds the number of
distinct refused findings as soon as one of them is offered twice
(`refused_repeat_counted_twice`).

A prepared session offers the findings of the scan of the loaded modules to a collection that
starts empty, so the findings it reports, in order, are exactly those the collection took
(`prepare_reports_taken`).

Main result: `collection_keeps_first_arrivals`.
-/

namespace NativeExports

/-- The findings of a list whose key neither `held` nor an earlier finding of the list has, in
the order they arrive. -/
def firstArrivals (held : List (String × String)) : List Finding → List Finding
  | [] => []
  | f :: rest =>
    if f.key ∈ held then firstArrivals held rest else f :: firstArrivals (held ++ [f.key]) rest

namespace Findings

/-- Offers findings, or nothing, one after the other. -/
def offerAll (b : Findings) (xs : List (Option Finding)) : Findings :=
  xs.foldl (fun b x => (b.add x).1) b

/-- The part of a list the collection has room for: as many findings as its limit leaves, or
the whole list when it has no limit. -/
def takeRoom (b : Findings) (fs : List Finding) : List Finding :=
  if 0 < b.limit then fs.take (b.limit.toNat - b.items.length) else fs

@[simp] theorem offerAll_nil (b : Findings) : b.offerAll [] = b := rfl

@[simp] theorem offerAll_cons (b : Findings) (x : Option Finding) (xs : List (Option Finding)) :
    b.offerAll (x :: xs) = (b.add x).1.offerAll xs := rfl

/-- An empty offer changes nothing and is refused. -/
@[simp] theorem add_none (b : Findings) : b.add none = (b, false) := rfl

@[simp] theorem takeRoom_nil (b : Findings) : b.takeRoom [] = [] := by
  unfold takeRoom
  split <;> simp

section Offer

variable {b : Findings} {f : Finding}

theorem any_key_iff : b.items.any (fun g => g.key == f.key) = true ↔ f.key ∈ b.items.map Finding.key := by
  simp

/-! ### The three outcomes of an offer -/

theorem add_of_held (hheld : f.key ∈ b.items.map Finding.key) : b.add (some f) = (b, false) := by
  simp [add, any_key_iff.2 hheld]

theorem add_of_full (hfresh : f.key ∉ b.items.map Finding.key) (hfull : b.full = true) :
    b.add (some f) = ({ b with dropped := b.dropped + 1 }, false) := by
  have hany : b.items.any (fun g => g.key == f.key) = false := by
    simpa [any_key_iff] using hfresh
  simp [add, hany, hfull]

theorem add_of_room (hfresh : f.key ∉ b.items.map Finding.key) (hroom : b.full = false) :
    b.add (some f) = ({ b with items := b.items ++ [f] }, true) := by
  have hany : b.items.any (fun g => g.key == f.key) = false := by
    simpa [any_key_iff] using hfresh
  simp [add, hany, hroom]

/-- An offer answers `true` exactly when it appends the finding offered, and otherwise leaves
the items as they are. -/
theorem add_items (b : Findings) (x : Option Finding) :
    (b.add x).1.items = b.items ++ if (b.add x).2 then x.toList else [] := by
  cases x with
  | none => simp
  | some f =>
    by_cases hheld : f.key ∈ b.items.map Finding.key
    · simp [add_of_held hheld]
    · cases hfull : b.full
      · simp [add_of_room hheld hfull]
      · simp [add_of_full hheld hfull]

@[simp] theorem add_limit (b : Findings) (x : Option Finding) : (b.add x).1.limit = b.limit := by
  cases x with
  | none => rfl
  | some f =>
    by_cases hheld : f.key ∈ b.items.map Finding.key
    · simp [add_of_held hheld]
    · cases hfull : b.full
      · simp [add_of_room hheld hfull]
      · simp [add_of_full hheld hfull]

/-! ### Room left -/

/-- A full collection has room for nothing. -/
theorem takeRoom_of_full (hfull : b.full = true) (fs : List Finding) : b.takeRoom fs = [] := by
  simp only [full, Bool.and_eq_true, decide_eq_true_eq] at hfull
  obtain ⟨hpos, hle⟩ := hfull
  have hnone : b.limit.toNat - b.items.length = 0 := by omega
  simp [takeRoom, hpos, hnone]

/-- A collection with room takes the first finding of a list and then what room is left after
it. -/
theorem takeRoom_cons (hroom : b.full = false) (f : Finding) (fs : List Finding) :
    b.takeRoom (f :: fs) = f :: { b with items := b.items ++ [f] }.takeRoom fs := by
  simp only [full, Bool.and_eq_false_iff, decide_eq_false_iff_not, Int.not_le] at hroom
  unfold takeRoom
  by_cases hpos : 0 < b.limit
  · -- the limit leaves at least one place, taken by `f`
    have hplace : b.limit.toNat - b.items.length = (b.limit.toNat - (b.items.length + 1)) + 1 := by
      omega
    simp [hpos, hplace]
  · simp [hpos]

end Offer

/-! ### Runs of offers -/

/-- Offers keep the collection's items followed by as many first arrivals of the findings
offered as there is room for. -/
theorem offerAll_items (b : Findings) (xs : List (Option Finding)) :
    (b.offerAll xs).items =
      b.items ++ b.takeRoom (firstArrivals (b.items.map Finding.key) (xs.filterMap id)) := by
  induction xs generalizing b with
  | nil => simp [firstArrivals]
  | cons x xs ih =>
    cases x with
    | none => simpa using ih b
    | some f =>
      by_cases hheld : f.key ∈ b.items.map Finding.key
      · rw [offerAll_cons, add_of_held hheld, ih]
        simp [firstArrivals, hheld]
      · cases hfull : b.full
        · -- `f` is appended, and the rest is offered to the collection that holds it
          rw [offerAll_cons, add_of_room hheld hfull, ih]
          simp [firstArrivals, hheld, takeRoom_cons hfull]
        · -- nothing more is taken once the collection is full
          have hfull' : ({ b with dropped := b.dropped + 1 } : Findings).full = true := hfull
          rw [offerAll_cons, add_of_full hheld hfull, ih, takeRoom_of_full hfull',
            takeRoom_of_full hfull]

theorem items_prefix_offerAll (b : Findings) (xs : List (Option Finding)) :
    b.items <+: (b.offerAll xs).items := by
  rw [offerAll_items]
  exact List.prefix_append _ _

theorem offerAll_of_full {b : Findings} (hfull : b.full = true) (xs : List (Option Finding)) :
    (b.offerAll xs).items = b.items := by
  rw [offerAll_items, takeRoom_of_full hfull, List.append_nil]

/-- Every offer of a finding the collection does not hold at the end was refused because it was
full, and is counted, once per offer. -/
theorem offerAll_dropped (b : Findings) (xs : List (Option Finding)) :
    (b.offerAll xs).dropped =
      b.dropped + (xs.filterMap id).countP fun f => f.key ∉ (b.offerAll xs).items.map Finding.key := by
  induction xs generalizing b with
  | nil => simp
  | cons x xs ih =>
    cases x with
    | none => simpa using ih b
    | some f =>
      by_cases hheld : f.key ∈ b.items.map Finding.key
      · -- a finding held already is refused without being counted, and is held at the end
        have hrun : b.offerAll (some f :: xs) = b.offerAll xs := by
          rw [offerAll_cons, add_of_held hheld]
        have hend : f.key ∈ (b.offerAll xs).items.map Finding.key :=
          List.map_subset Finding.key (items_prefix_offerAll b xs).subset hheld
        rw [hrun, ih b]
        simp only [List.filterMap_cons, id_eq, List.countP_cons, hend, not_true_eq_false,
          decide_false, Bool.false_eq_true, if_false, Nat.add_zero]
      · cases hfull : b.full
        · -- an appended finding is held at the end
          let c : Findings := { b with items := b.items ++ [f] }
          have hrun : b.offerAll (some f :: xs) = c.offerAll xs := by
            rw [offerAll_cons, add_of_room hheld hfull]
          have hend : f.key ∈ (c.offerAll xs).items.map Finding.key :=
            List.mem_map_of_mem ((items_prefix_offerAll c xs).subset (by simp [c]))
          rw [hrun, ih c]
          simp only [List.filterMap_cons, id_eq, List.countP_cons, hend, not_true_eq_false,
            decide_false, Bool.false_eq_true, if_false, Nat.add_zero, c]
        · -- a refused fresh finding is counted, and the full collection takes nothing more
          let c : Findings := { b with dropped := b.dropped + 1 }
          have hrun : b.offerAll (some f :: xs) = c.offerAll xs := by
            rw [offerAll_cons, add_of_full hheld hfull]
          have hend : f.key ∉ (c.offerAll xs).items.map Finding.key := by
            rw [offerAll_of_full (show c.full = true from hfull)]
            exact hheld
          rw [hrun, ih c]
          simp only [List.filterMap_cons, id, List.countP_cons, hend, c]
          simp
          omega

end Findings

namespace Session

/-- One step of `collect`: offer the finding, and keep it among those taken when the collection
took it. -/
def collectStep : Findings × List Finding → Finding → Findings × List Finding :=
  fun (b, taken) f =>
    let (b', took) := b.add (some f)
    (b', if took then taken ++ [f] else taken)

theorem collect_eq_foldl (b : Findings) (fs : List Finding) :
    collect b fs = fs.foldl collectStep (b, []) := rfl

/-- Collecting leaves the collection the offers leave, and keeps, after what it kept before, the
findings the collection appended. -/
theorem foldl_collectStep (fs : List Finding) (b : Findings) (taken : List Finding) :
    ∃ added, fs.foldl collectStep (b, taken) = (b.offerAll (fs.map some), taken ++ added) ∧
      (b.offerAll (fs.map some)).items = b.items ++ added := by
  induction fs generalizing b taken with
  | nil => exact ⟨[], by simp⟩
  | cons f fs ih =>
    -- what the first offer appends is kept, then the rest is collected from there
    let step := if (b.add (some f)).2 then [f] else []
    obtain ⟨added, hrun, hitems⟩ := ih (b.add (some f)).1 (taken ++ step)
    have hfirst : collectStep (b, taken) f = ((b.add (some f)).1, taken ++ step) := by
      cases hadd : b.add (some f) with
      | mk b' took => cases took <;> simp [collectStep, step, hadd]
    refine ⟨step ++ added, ?_, ?_⟩
    · rw [List.foldl_cons, hfirst, hrun]
      simp
    · rw [List.map_cons, Findings.offerAll_cons, hitems, Findings.add_items]
      simp [step]

/-- Collecting into an empty collection takes exactly what the collection ends up holding, in
order. -/
theorem collect_empty (limit : Int) (fs : List Finding) :
    collect (Findings.empty limit) fs =
      ((Findings.empty limit).offerAll (fs.map some),
        ((Findings.empty limit).offerAll (fs.map some)).items) := by
  obtain ⟨added, hrun, hitems⟩ := foldl_collectStep fs (Findings.empty limit) []
  rw [collect_eq_foldl, hrun, hitems]
  rfl

/-- A request with inputs whose load succeeds reports, in order, the findings its collection
took from the scan of the loaded modules, with the limit the request sets, and a session that
comes out holds that collection and reports the same findings.  A request with no inputs, or
whose load fails, reports nothing and prepares no session. -/
theorem prepare_reports_taken (w : Workspace) (req : SessionRequest) :
    (∀ loaded, req.inputs ≠ [] → load w req.search req.inputs = .ok loaded →
      let taken := (Findings.empty req.findingLimit).offerAll
        ((scanModules loaded.modules req.markers).1.map some)
      (prepare w req).1 = taken.items ∧
        ∀ sess, (prepare w req).2 = .ok sess → sess.findings = taken ∧
          sess.reported = taken.items) ∧
    (req.inputs = [] ∨ (∃ f, load w req.search req.inputs = .error f) →
      (prepare w req).1 = [] ∧ ∃ f, (prepare w req).2 = .error f) := by
  constructor
  · intro loaded hinputs hload
    have hne : req.inputs.isEmpty = false := List.isEmpty_eq_false_iff.2 hinputs
    -- the reported findings are those the collection holds, which the session keeps
    simp only [prepare, hne, Bool.false_eq_true, if_false, hload, collect_empty]
    refine ⟨trivial, fun sess hsess => ?_⟩
    obtain ⟨candidates, -, hrest⟩ := except_bind_eq_ok hsess
    obtain ⟨table, -, hsess⟩ := except_bind_eq_ok hrest
    cases hsess
    exact ⟨rfl, rfl⟩
  · rintro (hnil | ⟨f, hload⟩)
    · -- nothing is loaded, scanned or reported
      simp [prepare, hnil]
    · by_cases hinputs : req.inputs.isEmpty = true
      · simp [prepare, hinputs]
      · simp [prepare, hinputs, hload]

end Session

/-- Over every limit and every sequence of offers, from an empty collection: the collection holds
the first arrivals of the findings offered, as many as its limit allows (all of them when the
limit is not positive); it holds no other finding and drops, once per offer, every offer of a
finding it does not hold at the end; an offer answers `true` exactly when it appends its
finding, and an empty offer changes nothing.  A prepared session reports exactly the findings
its collection took from the scan of the loaded modules, in order; a request without inputs, or
whose load fails, reports nothing. -/
theorem collection_keeps_first_arrivals (limit : Int) (xs : List (Option Finding)) :
    let b := (Findings.empty limit).offerAll xs
    b.items = (if 0 < limit then (firstArrivals [] (xs.filterMap id)).take limit.toNat
      else firstArrivals [] (xs.filterMap id)) ∧
    b.dropped = (xs.filterMap id).countP (fun f => f.key ∉ b.items.map Finding.key) ∧
    (∀ (c : Findings) (x : Option Finding),
      (c.add x).1.items = c.items ++ if (c.add x).2 then x.toList else []) ∧
    (∀ c : Findings, c.add none = (c, false)) ∧
    (∀ (w : Workspace) (req : SessionRequest),
      (∀ loaded, req.inputs ≠ [] → load w req.search req.inputs = .ok loaded →
        let taken := (Findings.empty req.findingLimit).offerAll
          ((scanModules loaded.modules req.markers).1.map some)
        (Session.prepare w req).1 = taken.items ∧
          ∀ sess, (Session.prepare w req).2 = .ok sess → sess.findings = taken ∧
            sess.reported = taken.items) ∧
      (req.inputs = [] ∨ (∃ f, load w req.search req.inputs = .error f) →
        (Session.prepare w req).1 = [] ∧ ∃ f, (Session.prepare w req).2 = .error f)) := by
  dsimp only
  refine ⟨?_, ?_, Findings.add_items, Findings.add_none, Session.prepare_reports_taken⟩
  · exact Findings.offerAll_items (Findings.empty limit) xs
  · rw [Findings.offerAll_dropped]
    simp [Findings.empty]

/-- A finding that does not fit is offered twice to a collection of one: the collection keeps the
first finding and counts two dropped findings, though only one distinct finding was refused. -/
theorem refused_repeat_counted_twice :
    let first : Finding := ⟨Code.ineligibleMark, Severity.warning, "A::M is not static"⟩
    let second : Finding := ⟨Code.markInGenericType, Severity.warning, "G is generic"⟩
    let b := (Findings.empty 1).offerAll [some first, some second, some second]
    b.items = [first] ∧ b.dropped = 2 := by
  decide

end NativeExports

import Mathlib
import NativeExports.Export.Ordinal
/-!
Purpose: the ordinal allocation is correct for every list of candidates.

Allocation fails on a clash of requests exactly when two candidates request the same
ordinal; otherwise it runs out of ordinals exactly when there are more candidates without a
request than positive ordinals nobody requested; otherwise its table lists every candidate
once, by strictly increasing ordinal, each requesting candidate at its request and the k-th
candidate without one at the k-th unrequested ordinal.  The search for free ordinals keeps
a cursor that only moves forward; `Claims.freeList_of_freeFrom` is the invariant that makes it
agree with a fresh search for the smallest free ordinal: every ordinal the cursor skipped is
taken.  When the export names are distinct, the two lookups of the table read its entries.

Main results: `OrdinalTable.allocate_correct`, `OrdinalTable.Allocation.readsEntries`.
-/

namespace NativeExports

/-! ### What the allocation promises -/

/-- The ordinals the candidates request, in input order and with repetitions. -/
def requestedOrdinals (cands : List Candidate) : List Nat :=
  (cands.filter (·.ordinal ≠ 0)).map (·.ordinal.toNat)

/-- The candidates that request no ordinal, in input order. -/
def autoCandidates (cands : List Candidate) : List Candidate :=
  cands.filter (·.ordinal = 0)

/-- The positive ordinals that no candidate requests, in increasing order. -/
def unrequestedOrdinals (cands : List Candidate) : List Nat :=
  (List.range' 1 maxOrdinal).filter (· ∉ requestedOrdinals cands)

/-- The entry that gives a candidate an ordinal under the candidate's export name. -/
def OrdinalEntry.ofCandidate (o : Nat) (c : Candidate) : OrdinalEntry := ⟨o, c.name, c⟩

/-- The entries an allocation promises: each requesting candidate at its request, then the
k-th candidate without a request at the k-th unrequested ordinal. -/
def promisedEntries (cands : List Candidate) : List OrdinalEntry :=
  (cands.filter (·.ordinal ≠ 0)).map (fun c => .ofCandidate c.ordinal.toNat c) ++
    List.zipWith (fun c o => .ofCandidate o c) (autoCandidates cands) (unrequestedOrdinals cands)

/-- A table that allocates ordinals to the candidates as promised. -/
structure OrdinalTable.Allocation (cands : List Candidate) (t : OrdinalTable) : Prop where
  /-- The entries are the promised ones, in some order. -/
  entries_perm : t.entries.Perm (promisedEntries cands)
  /-- Every candidate holds exactly one entry. -/
  candidates_perm : (t.entries.map (·.candidate)).Perm cands
  /-- Each entry carries its candidate's export name. -/
  named : ∀ e ∈ t.entries, e.name = e.candidate.name
  /-- The entries come in strictly increasing order of ordinal. -/
  increasing : t.entries.Pairwise (·.ordinal < ·.ordinal)
  /-- Every ordinal is positive. -/
  positive : ∀ e ∈ t.entries, 1 ≤ e.ordinal

/-- The lookups of a table read its entries: the name at an ordinal and the ordinal of a name
are those of the entry that holds both. -/
structure OrdinalTable.ReadsEntries (t : OrdinalTable) : Prop where
  nameAt_eq_some : ∀ o n, t.nameAt? o = some n ↔ ∃ e ∈ t.entries, e.ordinal = o ∧ e.name = n
  ordinalOf_eq_some : ∀ o n, t.ordinalOf? n = some o ↔ ∃ e ∈ t.entries, e.ordinal = o ∧ e.name = n

namespace OrdinalTable.ReadsEntries

variable {t : OrdinalTable}

/-- The two lookups of a table that reads its entries are mutually inverse. -/
theorem nameAt_eq_some_iff_ordinalOf (h : t.ReadsEntries) (o : Nat) (n : String) :
    t.nameAt? o = some n ↔ t.ordinalOf? n = some o := by
  rw [h.nameAt_eq_some, h.ordinalOf_eq_some]

/-- An ordinal that no entry holds has no name. -/
theorem nameAt_eq_none (h : t.ReadsEntries) (o : Nat) :
    t.nameAt? o = none ↔ ∀ e ∈ t.entries, e.ordinal ≠ o := by
  rw [Option.eq_none_iff_forall_ne_some]
  constructor
  · intro habsent e he hordinal
    exact habsent e.name ((h.nameAt_eq_some o e.name).2 ⟨e, he, hordinal, rfl⟩)
  · rintro hnone n hn
    obtain ⟨e, he, hordinal, -⟩ := (h.nameAt_eq_some o n).1 hn
    exact hnone e he hordinal

/-- A name that no entry carries has no ordinal. -/
theorem ordinalOf_eq_none (h : t.ReadsEntries) (n : String) :
    t.ordinalOf? n = none ↔ ∀ e ∈ t.entries, e.name ≠ n := by
  rw [Option.eq_none_iff_forall_ne_some]
  constructor
  · intro habsent e he hname
    exact habsent e.ordinal ((h.ordinalOf_eq_some e.ordinal n).2 ⟨e, he, rfl, hname⟩)
  · rintro hnone o ho
    obtain ⟨e, he, -, hname⟩ := (h.ordinalOf_eq_some o n).1 ho
    exact hnone e he hname

end OrdinalTable.ReadsEntries

/-! ### The claims array -/

namespace Claims

/-- Whether nobody holds an ordinal in the claims; ordinals past the end are free. -/
def isFree (claims : Claims) (o : Nat) : Bool :=
  match claims[o]? with
  | some (some _) => false
  | _ => true

/-- The free ordinals from a cursor up to the largest ordinal, in increasing order. -/
def freeList (claims : Claims) (cursor : Nat) : List Nat :=
  (List.range' cursor (maxOrdinal + 1 - cursor)).filter claims.isFree

/-- An ordinal someone holds is not free. -/
theorem isFree_of_held {claims : Claims} {o : Nat} {prev : Candidate}
    (h : claims[o]? = some (some prev)) : claims.isFree o = false := by
  simp [isFree, h]

/-- An ordinal nobody holds is free. -/
theorem isFree_of_not_held {claims : Claims} {o : Nat}
    (h : ∀ prev, claims[o]? = some (some prev) → False) : claims.isFree o = true := by
  unfold isFree
  split <;> simp_all

/-- Nothing is held before the first request. -/
@[simp] theorem isFree_replicate (n o : Nat) :
    isFree (Array.replicate n none) o = true := by
  unfold isFree
  rw [Array.getElem?_replicate]
  split <;> simp_all

/-- Claiming an ordinal inside the array takes exactly that ordinal. -/
theorem isFree_set {claims : Claims} {o : Nat} (c : Candidate) (ho : o < claims.size) (p : Nat) :
    isFree (claims.set! o (some c)) p = true ↔ claims.isFree p = true ∧ p ≠ o := by
  unfold isFree
  rw [Array.set!_eq_setIfInBounds, Array.getElem?_setIfInBounds]
  by_cases hpo : p = o
  · subst hpo
    simp [ho]
  · simp [Ne.symm hpo, hpo]

/-- One step of the list of free ordinals, as the search takes it. -/
theorem freeList_eq (claims : Claims) (cursor : Nat) :
    claims.freeList cursor =
      if cursor ≤ maxOrdinal then
        if claims.isFree cursor then cursor :: claims.freeList (cursor + 1)
        else claims.freeList (cursor + 1)
      else [] := by
  unfold freeList
  by_cases hle : cursor ≤ maxOrdinal
  · have hlen : maxOrdinal + 1 - cursor = (maxOrdinal + 1 - (cursor + 1)) + 1 := by omega
    rw [hlen, List.range'_succ, List.filter_cons]
    simp [hle]
  · have hlen : maxOrdinal + 1 - cursor = 0 := by omega
    simp [hle, hlen]

/-- The search finds the first free ordinal from the cursor on. -/
theorem freeFrom_eq_head (claims : Claims) (cursor : Nat) :
    freeFrom claims cursor = (claims.freeList cursor).head? := by
  fun_induction freeFrom claims cursor with
  | case1 cursor hle prev htaken ih =>
      rw [ih, freeList_eq claims cursor, if_pos hle, isFree_of_held htaken]
      rfl
  | case2 cursor hle hnot =>
      rw [freeList_eq, if_pos hle, isFree_of_not_held hnot]
      rfl
  | case3 cursor hgt =>
      rw [freeList_eq, if_neg hgt]
      rfl

/-- The cursor invariant: when the search from a cursor finds `o`, every ordinal it skipped
is taken, so the free ordinals from the cursor are `o` and then those after `o`.  Moving the
cursor past `o` therefore loses no free ordinal. -/
theorem freeList_of_freeFrom {claims : Claims} {cursor o : Nat}
    (h : freeFrom claims cursor = some o) :
    claims.freeList cursor = o :: claims.freeList (o + 1) := by
  fun_induction freeFrom claims cursor with
  | case1 cursor hle prev htaken ih =>
      rw [freeList_eq, if_pos hle, isFree_of_held htaken]
      exact ih h
  | case2 cursor hle hnot =>
      cases h
      rw [freeList_eq, if_pos hle, isFree_of_not_held hnot, if_pos rfl]
  | case3 cursor hgt =>
      cases h

end Claims

/-! ### Requests -/

/-- A candidate adds its request, when it makes one, in front of the later requests. -/
theorem requestedOrdinals_cons (c : Candidate) (cs : List Candidate) :
    requestedOrdinals (c :: cs) =
      if c.ordinal.toNat = 0 then requestedOrdinals cs
      else c.ordinal.toNat :: requestedOrdinals cs := by
  by_cases hzero : c.ordinal = 0
  · simp [requestedOrdinals, hzero]
  · have hnat : c.ordinal.toNat ≠ 0 := fun h => hzero (UInt16.toNat_inj.1 (by simpa using h))
    simp [requestedOrdinals, hzero, hnat]

/-- Every requested ordinal indexes the claims array. -/
theorem toNat_lt_claims {claims : Claims} (hsize : claims.size = maxOrdinal + 1) (c : Candidate) :
    c.ordinal.toNat < claims.size := by
  rw [hsize]
  exact c.ordinal.toNat_lt

/-- Requests that are distinct and free are all granted, and afterwards the ordinals taken are
those taken before and the requested ones. -/
theorem claimRequested_of_fresh {claims : Claims} {cs : List Candidate}
    (hsize : claims.size = maxOrdinal + 1) (hnodup : (requestedOrdinals cs).Nodup)
    (hfree : ∀ o ∈ requestedOrdinals cs, claims.isFree o) :
    ∃ claims', claimRequested claims cs = .ok claims' ∧
      ∀ o, claims'.isFree o = true ↔ claims.isFree o = true ∧ o ∉ requestedOrdinals cs := by
  fun_induction claimRequested claims cs with
  | case1 claims =>
      exact ⟨claims, rfl, by simp [requestedOrdinals]⟩
  | case2 claims c rest o hzero ih =>
      rw [requestedOrdinals_cons, if_pos hzero] at hnodup hfree ⊢
      exact ih hsize hnodup hfree
  | case3 claims c rest o hzero prev hheld =>
      rw [requestedOrdinals_cons, if_neg hzero] at hfree
      have hfull := Claims.isFree_of_held hheld
      simp [hfree o List.mem_cons_self] at hfull
  | case4 claims c rest o hzero hnot ih =>
      have hlt := toNat_lt_claims hsize c
      rw [requestedOrdinals_cons, if_neg hzero] at hnodup hfree ⊢
      obtain ⟨hfresh, hnodup'⟩ := List.nodup_cons.1 hnodup
      have hfree' : ∀ p ∈ requestedOrdinals rest, Claims.isFree (claims.set! o (some c)) p := by
        intro p hp
        exact (Claims.isFree_set c hlt p).2
          ⟨hfree p (List.mem_cons_of_mem _ hp), fun hpo => hfresh (hpo ▸ hp)⟩
      obtain ⟨claims', hrun, hclaims'⟩ := ih (by simp [hsize]) hnodup' hfree'
      refine ⟨claims', hrun, fun p => ?_⟩
      rw [hclaims', Claims.isFree_set c hlt, List.mem_cons]
      tauto

/-- A request of an ordinal that is taken or requested twice stops the claims with a clash. -/
theorem claimRequested_of_clash {claims : Claims} {cs : List Candidate}
    (hsize : claims.size = maxOrdinal + 1)
    (hclash : ¬ ((requestedOrdinals cs).Nodup ∧ ∀ o ∈ requestedOrdinals cs, claims.isFree o)) :
    ∃ f, claimRequested claims cs = .error f ∧ f.code = Code.duplicateOrdinal := by
  fun_induction claimRequested claims cs with
  | case1 claims =>
      simp [requestedOrdinals] at hclash
  | case2 claims c rest o hzero ih =>
      rw [requestedOrdinals_cons, if_pos hzero] at hclash
      exact ih hsize hclash
  | case3 claims c rest o hzero prev hheld =>
      exact ⟨_, rfl, rfl⟩
  | case4 claims c rest o hzero hnot ih =>
      have hlt := toNat_lt_claims hsize c
      rw [requestedOrdinals_cons, if_neg hzero] at hclash
      apply ih (by simp [hsize])
      rintro ⟨hnodup, hfree⟩
      have hrest : ∀ p ∈ requestedOrdinals rest, claims.isFree p = true ∧ p ≠ o :=
        fun p hp => (Claims.isFree_set c hlt p).1 (hfree p hp)
      apply hclash
      refine ⟨List.nodup_cons.2 ⟨fun ho => (hrest o ho).2 rfl, hnodup⟩, ?_⟩
      intro p hp
      rcases List.mem_cons.1 hp with rfl | hp
      · exact Claims.isFree_of_not_held hnot
      · exact (hrest p hp).1

/-! ### Candidates without a request -/

/-- With enough free ordinals, the k-th candidate gets the k-th free ordinal from the cursor
on. -/
theorem assignFree_of_le {claims : Claims} {cursor : Nat} {autos : List Candidate}
    (h : autos.length ≤ (claims.freeList cursor).length) :
    assignFree claims cursor autos =
      .ok (List.zipWith (fun c o => .ofCandidate o c) autos (claims.freeList cursor)) := by
  induction autos generalizing cursor with
  | nil =>
      rfl
  | cons c rest ih =>
      cases hfound : freeFrom claims cursor with
      | none =>
          rw [Claims.freeFrom_eq_head, List.head?_eq_none_iff] at hfound
          simp [hfound] at h
      | some o =>
          rw [Claims.freeList_of_freeFrom hfound] at h ⊢
          simp only [assignFree, hfound, ih (Nat.le_of_succ_le_succ h)]
          rfl

/-- With too few free ordinals, the assignment runs out of ordinals. -/
theorem assignFree_of_lt {claims : Claims} {cursor : Nat} {autos : List Candidate}
    (h : (claims.freeList cursor).length < autos.length) :
    ∃ f, assignFree claims cursor autos = .error f ∧ f.code = Code.ordinalsSpent := by
  induction autos generalizing cursor with
  | nil =>
      simp at h
  | cons c rest ih =>
      cases hfound : freeFrom claims cursor with
      | none =>
          simp only [assignFree, hfound]
          exact ⟨_, rfl, rfl⟩
      | some o =>
          rw [Claims.freeList_of_freeFrom hfound] at h
          obtain ⟨f, hf, hcode⟩ := @ih (o + 1) (Nat.lt_of_succ_lt_succ h)
          exact ⟨f, by simp only [assignFree, hfound, hf]; rfl, hcode⟩

/-! ### The promised entries -/

/-- A requested ordinal is a positive ordinal. -/
theorem mem_requestedOrdinals {cands : List Candidate} {o : Nat}
    (h : o ∈ requestedOrdinals cands) : 1 ≤ o ∧ o ≤ maxOrdinal := by
  obtain ⟨c, hc, rfl⟩ := List.mem_map.1 h
  have hzero : c.ordinal ≠ 0 := by simpa using (List.mem_filter.1 hc).2
  have hnat : c.ordinal.toNat ≠ 0 := fun h => hzero (UInt16.toNat_inj.1 (by simpa using h))
  have hlt := c.ordinal.toNat_lt
  simp only [maxOrdinal]
  omega

/-- An unrequested ordinal is a positive ordinal that nobody requests. -/
theorem mem_unrequestedOrdinals {cands : List Candidate} {o : Nat} :
    o ∈ unrequestedOrdinals cands ↔ 1 ≤ o ∧ o ≤ maxOrdinal ∧ o ∉ requestedOrdinals cands := by
  simp only [unrequestedOrdinals, List.mem_filter, List.mem_range'_1, decide_eq_true_eq]
  constructor
  · rintro ⟨⟨hlow, hhigh⟩, hfree⟩
    exact ⟨hlow, by omega, hfree⟩
  · rintro ⟨hlow, hhigh, hfree⟩
    exact ⟨⟨hlow, by omega⟩, hfree⟩

/-- Counting the free ordinals: the positive ordinals less the distinct requested ones. -/
theorem length_unrequestedOrdinals (cands : List Candidate) :
    (unrequestedOrdinals cands).length =
      maxOrdinal - (requestedOrdinals cands).toFinset.card := by
  have htaken : ((List.range' 1 maxOrdinal).filter (· ∈ requestedOrdinals cands)).length =
      (requestedOrdinals cands).toFinset.card := by
    rw [← List.toFinset_card_of_nodup ((List.nodup_range' (s := 1)).filter _)]
    congr 1
    ext o
    simp only [List.mem_toFinset, List.mem_filter, decide_eq_true_eq, List.mem_range'_1,
      and_iff_right_iff_imp]
    intro ho
    have := mem_requestedOrdinals ho
    omega
  have hsplit := List.length_eq_countP_add_countP
    (fun o => decide (o ∈ requestedOrdinals cands)) (l := List.range' 1 maxOrdinal)
  simp only [List.countP_eq_length_filter, List.length_range', decide_eq_true_eq,
    decide_not] at hsplit
  simp only [unrequestedOrdinals, decide_not]
  omega

/-- The ordinals the assignment gives: the first free ones, one per candidate. -/
theorem map_ordinal_zipWith (autos : List Candidate) (os : List Nat) :
    (List.zipWith (fun c o => OrdinalEntry.ofCandidate o c) autos os).map (·.ordinal) =
      os.take autos.length := by
  induction autos generalizing os with
  | nil =>
      rfl
  | cons c rest ih =>
      cases os with
      | nil => rfl
      | cons o os =>
          simp only [List.zipWith_cons_cons, List.map_cons, ih, List.length_cons,
            List.take_succ_cons]
          rfl

/-- With enough ordinals, the assignment holds every candidate once, in order. -/
theorem map_candidate_zipWith {autos : List Candidate} {os : List Nat}
    (h : autos.length ≤ os.length) :
    (List.zipWith (fun c o => OrdinalEntry.ofCandidate o c) autos os).map (·.candidate) = autos := by
  induction autos generalizing os with
  | nil =>
      rfl
  | cons c rest ih =>
      cases os with
      | nil => simp at h
      | cons o os =>
          simp only [List.zipWith_cons_cons, List.map_cons, ih (Nat.le_of_succ_le_succ h)]
          rfl

/-- Every promised entry carries its candidate's export name. -/
theorem promisedEntries_named (cands : List Candidate) :
    ∀ e ∈ promisedEntries cands, e.name = e.candidate.name := by
  rw [← List.map_eq_map_iff]
  simp [promisedEntries, List.map_zipWith, OrdinalEntry.ofCandidate]

/-- The ordinals of the promised entries: the requested ones, then the first free ones. -/
theorem map_ordinal_promisedEntries (cands : List Candidate) :
    (promisedEntries cands).map (·.ordinal) =
      requestedOrdinals cands ++ (unrequestedOrdinals cands).take (autoCandidates cands).length := by
  rw [promisedEntries, List.map_append, map_ordinal_zipWith, List.map_map]
  rfl

/-- Distinct requests give the promised entries distinct positive ordinals. -/
theorem promisedEntries_ordinals {cands : List Candidate} (hnodup : (requestedOrdinals cands).Nodup) :
    ((promisedEntries cands).map (·.ordinal)).Nodup ∧
      ∀ e ∈ promisedEntries cands, 1 ≤ e.ordinal := by
  have hfree : ∀ o ∈ (unrequestedOrdinals cands).take (autoCandidates cands).length,
      o ∈ unrequestedOrdinals cands := (List.take_sublist _ _).subset
  constructor
  · rw [map_ordinal_promisedEntries, List.nodup_append]
    refine ⟨hnodup, ?_, ?_⟩
    · exact (((List.nodup_range' (s := 1)).filter _).sublist (List.take_sublist _ _))
    · intro a ha b hb hab
      exact (mem_unrequestedOrdinals.1 (hfree b hb)).2.2 (hab ▸ ha)
  · intro e he
    have ho : e.ordinal ∈ (promisedEntries cands).map (·.ordinal) := List.mem_map_of_mem he
    rw [map_ordinal_promisedEntries, List.mem_append] at ho
    rcases ho with ho | ho
    · exact (mem_requestedOrdinals ho).1
    · exact (mem_unrequestedOrdinals.1 (hfree _ ho)).1

/-- With enough free ordinals, the promised entries hold every candidate once. -/
theorem map_candidate_promisedEntries {cands : List Candidate}
    (hfits : (autoCandidates cands).length ≤ (unrequestedOrdinals cands).length) :
    ((promisedEntries cands).map (·.candidate)).Perm cands := by
  have hsplit := List.filter_append_perm (fun c : Candidate => decide (c.ordinal ≠ 0)) cands
  simp only [promisedEntries, List.map_append, List.map_map, map_candidate_zipWith hfits]
  simpa [autoCandidates, OrdinalEntry.ofCandidate, Function.comp_def] using hsplit

/-- Looking an entry up by a key that no two entries share finds the one entry with that key. -/
theorem find?_map_eq_some_iff {α β γ : Type} [BEq β] [LawfulBEq β] (key : α → β) {val : α → γ}
    {l : List α} (hkeys : (l.map key).Nodup) (k : β) (v : γ) :
    (l.find? (key · == k)).map val = some v ↔ ∃ e ∈ l, key e = k ∧ val e = v := by
  constructor
  · intro h
    obtain ⟨e, hfind, rfl⟩ := Option.map_eq_some_iff.1 h
    exact ⟨e, List.mem_of_find?_eq_some hfind, by simpa using List.find?_some hfind, rfl⟩
  · rintro ⟨e, he, rfl, rfl⟩
    cases hfind : l.find? (key · == key e) with
    | none =>
        have hmiss := List.find?_eq_none.1 hfind e he
        simp at hmiss
    | some found =>
        have hsame : found = e := List.inj_on_of_nodup_map hkeys
          (List.mem_of_find?_eq_some hfind) he (by simpa using List.find?_some hfind)
        simp [hsame]

/-- Entries sorted by ordinal with no ordinal twice are in strictly increasing order. -/
theorem pairwise_lt_of_sorted {l : List OrdinalEntry}
    (hsorted : l.Pairwise (·.ordinal ≤ ·.ordinal)) (hdistinct : (l.map (·.ordinal)).Nodup) :
    l.Pairwise (·.ordinal < ·.ordinal) :=
  (hsorted.and (List.pairwise_map.1 hdistinct)).imp fun ⟨hle, hne⟩ => Nat.lt_of_le_of_ne hle hne

/-! ### Allocation -/

namespace OrdinalTable

/-- Distinct requests are granted on the empty claims array, and the ordinals left free from
1 on are the unrequested ones. -/
theorem claimRequested_empty {cands : List Candidate} (hnodup : (requestedOrdinals cands).Nodup) :
    ∃ claims, claimRequested (Array.replicate (maxOrdinal + 1) none) cands = .ok claims ∧
      claims.freeList 1 = unrequestedOrdinals cands := by
  obtain ⟨claims, hrun, hfree⟩ := claimRequested_of_fresh Array.size_replicate hnodup
    (fun o _ => Claims.isFree_replicate _ o)
  refine ⟨claims, hrun, ?_⟩
  rw [Claims.freeList, unrequestedOrdinals, Nat.add_sub_cancel]
  apply List.filter_congr
  intro o _
  rw [Bool.eq_iff_iff, hfree o]
  simp

/-- Two candidates requesting one ordinal make the allocation fail with a clash. -/
theorem allocate_of_clash {cands : List Candidate} (hclash : ¬ (requestedOrdinals cands).Nodup) :
    ∃ f, allocate cands = .error f ∧ f.code = Code.duplicateOrdinal := by
  obtain ⟨f, hrun, hcode⟩ := @claimRequested_of_clash (Array.replicate (maxOrdinal + 1) none) cands
    Array.size_replicate (fun h => hclash h.1)
  refine ⟨f, ?_, hcode⟩
  rw [allocate, hrun]
  rfl

/-- More candidates without a request than unrequested ordinals make the allocation run out. -/
theorem allocate_of_spent {cands : List Candidate} (hnodup : (requestedOrdinals cands).Nodup)
    (hspent : (unrequestedOrdinals cands).length < (autoCandidates cands).length) :
    ∃ f, allocate cands = .error f ∧ f.code = Code.ordinalsSpent := by
  obtain ⟨claims, hrun, hfree⟩ := claimRequested_empty hnodup
  obtain ⟨f, hassign, hcode⟩ := @assignFree_of_lt claims 1 _ (hfree ▸ hspent)
  refine ⟨f, ?_, hcode⟩
  rw [allocate, hrun]
  simp only [autoCandidates] at hassign
  simp [bind, Except.bind, hassign]

/-- Otherwise the allocation succeeds, and its table lists the promised entries by ordinal. -/
theorem allocate_of_fits {cands : List Candidate} (hnodup : (requestedOrdinals cands).Nodup)
    (hfits : (autoCandidates cands).length ≤ (unrequestedOrdinals cands).length) :
    allocate cands = .ok ⟨(promisedEntries cands).mergeSort fun a b => a.ordinal ≤ b.ordinal⟩ := by
  obtain ⟨claims, hrun, hfree⟩ := claimRequested_empty hnodup
  have hassign := @assignFree_of_le claims 1 _ (hfree ▸ hfits)
  rw [hfree] at hassign
  simp only [autoCandidates] at hassign
  rw [allocate, hrun]
  simp only [bind, Except.bind, hassign]
  rfl

/-- The promised entries sorted by ordinal allocate the ordinals as promised. -/
theorem allocation_mergeSort {cands : List Candidate} (hnodup : (requestedOrdinals cands).Nodup)
    (hfits : (autoCandidates cands).length ≤ (unrequestedOrdinals cands).length) :
    Allocation cands ⟨(promisedEntries cands).mergeSort fun a b => a.ordinal ≤ b.ordinal⟩ := by
  have hperm := List.mergeSort_perm (promisedEntries cands)
    (fun a b : OrdinalEntry => decide (a.ordinal ≤ b.ordinal))
  have hsorted := @List.pairwise_mergeSort _ (fun a b : OrdinalEntry => decide (a.ordinal ≤ b.ordinal))
    (fun a b c hab hbc => by simp only [decide_eq_true_eq] at *; omega)
    (fun a b => by simp only [Bool.or_eq_true, decide_eq_true_eq]; omega) (promisedEntries cands)
  obtain ⟨hdistinct, hpositive⟩ := promisedEntries_ordinals hnodup
  exact {
    entries_perm := hperm
    candidates_perm := (hperm.map _).trans (map_candidate_promisedEntries hfits)
    named := fun e he => promisedEntries_named cands e (hperm.subset he)
    increasing := pairwise_lt_of_sorted (by simpa using hsorted)
      ((hperm.map _).nodup_iff.2 hdistinct)
    positive := fun e he => hpositive e (hperm.subset he) }

/-- With distinct export names, the lookups of an allocated table read its entries: the name
at an ordinal and the ordinal of a name are those of the one entry that holds them. -/
theorem Allocation.readsEntries {cands : List Candidate} {t : OrdinalTable}
    (ha : Allocation cands t) (hnames : (cands.map (·.name)).Nodup) : t.ReadsEntries := by
  have hordinals : (t.entries.map (·.ordinal)).Nodup :=
    List.pairwise_map.2 (ha.increasing.imp Nat.ne_of_lt)
  have hentryNames : (t.entries.map (·.name)).Nodup := by
    have hsame : t.entries.map (·.name) = (t.entries.map (·.candidate)).map (·.name) := by
      rw [List.map_map]
      exact List.map_congr_left ha.named
    rw [hsame]
    exact (ha.candidates_perm.map _).nodup_iff.2 hnames
  have hreversed : (t.entries.reverse.map (·.name)).Nodup := by
    rw [List.map_reverse]
    exact List.nodup_reverse.2 hentryNames
  constructor
  · intro o n
    exact find?_map_eq_some_iff OrdinalEntry.ordinal hordinals o n
  · intro o n
    rw [ordinalOf?, find?_map_eq_some_iff OrdinalEntry.name hreversed n o]
    simp only [List.mem_reverse]
    constructor
    · rintro ⟨e, he, hname, hordinal⟩
      exact ⟨e, he, hordinal, hname⟩
    · rintro ⟨e, he, hordinal, hname⟩
      exact ⟨e, he, hname, hordinal⟩

/-- Every table the allocation builds allocates its candidates as promised. -/
theorem allocation_of_ok {cands : List Candidate} {t : OrdinalTable} (hbuilt : allocate cands = .ok t) :
    Allocation cands t := by
  by_cases hnodup : (requestedOrdinals cands).Nodup
  · by_cases hfits : (autoCandidates cands).length ≤ (unrequestedOrdinals cands).length
    · rw [allocate_of_fits hnodup hfits, Except.ok.injEq] at hbuilt
      rw [← hbuilt]
      exact allocation_mergeSort hnodup hfits
    · obtain ⟨f, hfailed, -⟩ := allocate_of_spent hnodup (Nat.lt_of_not_le hfits)
      rw [hfailed] at hbuilt
      cases hbuilt
  · obtain ⟨f, hfailed, -⟩ := allocate_of_clash hnodup
    rw [hfailed] at hbuilt
    cases hbuilt

/-- Ordinal allocation, for every list of candidates.  It fails with a clash exactly when two
candidates request the same ordinal; otherwise it fails for want of ordinals exactly when the
candidates without a request outnumber the positive ordinals left after the distinct requests;
otherwise it succeeds.  A table it builds allocates as promised, and when the export names are
distinct its lookups read its entries. -/
theorem allocate_correct (cands : List Candidate) :
    ((∃ f, allocate cands = .error f ∧ f.code = Code.duplicateOrdinal) ↔
      ¬ (requestedOrdinals cands).Nodup) ∧
    ((∃ f, allocate cands = .error f ∧ f.code = Code.ordinalsSpent) ↔
      (requestedOrdinals cands).Nodup ∧
        maxOrdinal - (requestedOrdinals cands).toFinset.card < (autoCandidates cands).length) ∧
    ((∃ t, allocate cands = .ok t) ↔
      (requestedOrdinals cands).Nodup ∧
        (autoCandidates cands).length ≤ maxOrdinal - (requestedOrdinals cands).toFinset.card) ∧
    ∀ t, allocate cands = .ok t →
      Allocation cands t ∧ ((cands.map (·.name)).Nodup → t.ReadsEntries) := by
  rw [← length_unrequestedOrdinals]
  have hcodes : Code.duplicateOrdinal ≠ Code.ordinalsSpent := by decide
  by_cases hnodup : (requestedOrdinals cands).Nodup
  · by_cases hfits : (autoCandidates cands).length ≤ (unrequestedOrdinals cands).length
    · have ha := allocation_mergeSort hnodup hfits
      rw [allocate_of_fits hnodup hfits]
      refine ⟨by simp [hnodup], by simp [hfits], by simp [hnodup, hfits], ?_⟩
      rintro t ⟨⟩
      exact ⟨ha, ha.readsEntries⟩
    · have hspent := Nat.lt_of_not_le hfits
      obtain ⟨f, hf, hcode⟩ := allocate_of_spent hnodup hspent
      rw [hf]
      refine ⟨by simp [hcode, hnodup, hcodes.symm], by simp [hcode, hnodup, hspent],
        by simp [hfits], ?_⟩
      rintro t ⟨⟩
  · obtain ⟨f, hf, hcode⟩ := allocate_of_clash hnodup
    rw [hf]
    refine ⟨by simp [hcode, hnodup], by simp [hcode, hnodup, hcodes], by simp [hnodup], ?_⟩
    rintro t ⟨⟩

end OrdinalTable

end NativeExports

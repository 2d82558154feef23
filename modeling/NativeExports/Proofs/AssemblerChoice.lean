import Mathlib
import NativeExports.Toolchain
import NativeExports.Proofs.ExceptSteps
/-!
Purpose: which assembler is chosen for a required runtime, over every table of configured
lines, binary name and search of the path.

`AssemblerSearch.Chooses` states what the choice gives, apart from how the search runs:
* the path configured under the requirement's line as written ("v", major, ".", minor), when
  that entry has a path;
* otherwise a fault of the configuration when some configured key is not a version;
* otherwise the path of a configured line at or above the requirement whose version is the
  lowest of those, among the lines with a path;
* otherwise the assembler the path search finds under the binary's name (`ilasm` when none is
  set), or a fault that none was found.

The configured lines are read as versions and kept sorted by version (`parseLines_ok`), so the
first line at or above the requirement is a lowest one (`find?_least_of_pairwise`).  A key is
matched to the requirement's line as text only: a key written otherwise ("4.0", "V4.0",
"v4.0.0") counts by its version alone, and is passed over when that version is below the
requirement (`respelled_line_passed_over`).  When several keys share the lowest version, the
statement leaves open whose path is given.

Main result: `resolve_chooses`.
-/

namespace NativeExports

namespace RuntimeVersion

theorem compare_self (v : RuntimeVersion) : v.compare v = 0 := by
  simp [compare]

/-- Comparing the other way round gives the opposite answer. -/
theorem compare_swap (v w : RuntimeVersion) : w.compare v = -v.compare w := by
  simp only [compare]
  split_ifs <;> omega

/-- A version is at most another exactly when it is no greater part by part, major first. -/
theorem compare_nonpos_iff (v w : RuntimeVersion) :
    v.compare w ≤ 0 ↔
      v.major < w.major ∨ v.major = w.major ∧ (v.minor < w.minor ∨ v.minor = w.minor ∧ v.build ≤ w.build) := by
  simp only [compare]
  split_ifs <;> omega

theorem compare_trans {u v w : RuntimeVersion} (huv : u.compare v ≤ 0) (hvw : v.compare w ≤ 0) :
    u.compare w ≤ 0 := by
  rw [compare_nonpos_iff] at huv hvw ⊢
  omega

end RuntimeVersion

/-! ### Reading the configured lines -/

/-- A configured line once read: its version, key and path. -/
abbrev ReadLine := RuntimeVersion × String × String

/-- The order the read lines are kept in: by version, lowest first. -/
def ReadLine.le (a b : ReadLine) : Prop := a.1.compare b.1 ≤ 0

theorem ReadLine.le_refl (a : ReadLine) : a.le a :=
  Int.le_of_eq (RuntimeVersion.compare_self a.1)

theorem mem_insertLine {l m : ReadLine} {ls : List ReadLine} :
    m ∈ insertLine l ls ↔ m = l ∨ m ∈ ls := by
  induction ls with
  | nil => simp [insertLine]
  | cons n ls ih =>
    unfold insertLine
    split
    · simp
    · simp only [List.mem_cons, ih]
      exact or_left_comm

/-- Inserting a line keeps the lines sorted by version. -/
theorem pairwise_insertLine (l : ReadLine) {ls : List ReadLine} (hsorted : ls.Pairwise ReadLine.le) :
    (insertLine l ls).Pairwise ReadLine.le := by
  induction ls with
  | nil => simp [insertLine]
  | cons m ls ih =>
    rw [List.pairwise_cons] at hsorted
    obtain ⟨hm, hls⟩ := hsorted
    unfold insertLine
    split
    · -- `l` goes first: it is no later than `m`, hence than everything after `m`
      rename_i hbefore
      have hlm : ReadLine.le l m := by
        simp only [Bool.or_eq_true, decide_eq_true_eq, Bool.and_eq_true, beq_iff_eq] at hbefore
        unfold ReadLine.le
        omega
      refine List.pairwise_cons.2 ⟨fun x hx => ?_, List.pairwise_cons.2 ⟨hm, hls⟩⟩
      rcases List.mem_cons.1 hx with rfl | hx
      · exact hlm
      · exact RuntimeVersion.compare_trans hlm (hm x hx)
    · -- `m` stays first: `l` is no earlier than `m`
      rename_i hafter
      have hml : ReadLine.le m l := by
        simp only [Bool.or_eq_true, decide_eq_true_eq, Bool.and_eq_true, beq_iff_eq, not_or,
          not_and] at hafter
        unfold ReadLine.le
        rw [RuntimeVersion.compare_swap]
        omega
      refine List.pairwise_cons.2 ⟨fun x hx => ?_, ih hls⟩
      rcases mem_insertLine.1 hx with rfl | hx
      · exact hml
      · exact hm x hx

/-- A reading that fails names a key that is not a version, under the configuration's code. -/
theorem parseLines_error {lines : List (String × String)} {e : Fault} (h : parseLines lines = .error e) :
    e.code = Code.badConfig ∧ ∃ key path e', (key, path) ∈ lines ∧ RuntimeVersion.parse key = .error e' := by
  induction lines with
  | nil => cases h
  | cons line lines ih =>
    obtain ⟨key, path⟩ := line
    unfold parseLines at h
    split at h
    · -- the first key is no version
      rename_i e' hkey
      cases h
      exact ⟨rfl, key, path, e', List.mem_cons_self, hkey⟩
    · -- the first key reads; the failure is a later one's
      cases hrest : parseLines lines with
      | error e'' =>
        rw [hrest] at h
        cases h
        obtain ⟨hcode, k, p, e', hmem, hk⟩ := ih hrest
        exact ⟨hcode, k, p, e', List.mem_cons_of_mem _ hmem, hk⟩
      | ok parsed =>
        rw [hrest] at h
        cases h

/-- What a successful reading gives: every configured line with the version its key reads as,
nothing else, sorted by version. -/
structure ReadsLines (lines : List (String × String)) (parsed : List ReadLine) : Prop where
  complete : ∀ key path, (key, path) ∈ lines → ∃ v, RuntimeVersion.parse key = .ok v ∧ (v, key, path) ∈ parsed
  sound : ∀ l ∈ parsed, (l.2.1, l.2.2) ∈ lines ∧ RuntimeVersion.parse l.2.1 = .ok l.1
  sorted : parsed.Pairwise ReadLine.le

theorem parseLines_ok {lines : List (String × String)} {parsed : List ReadLine}
    (h : parseLines lines = .ok parsed) : ReadsLines lines parsed := by
  induction lines generalizing parsed with
  | nil =>
    cases h
    exact ⟨by simp, by simp, List.Pairwise.nil⟩
  | cons line lines ih =>
    obtain ⟨key, path⟩ := line
    unfold parseLines at h
    split at h
    · cases h
    · rename_i v hkey
      obtain ⟨rest, hrest, rfl⟩ := except_map_eq_ok h
      have hr := ih hrest
      refine ⟨fun k p hmem => ?_, fun l hl => ?_, pairwise_insertLine _ hr.sorted⟩
      · rcases List.mem_cons.1 hmem with heq | hmem
        · cases heq
          exact ⟨v, hkey, mem_insertLine.2 (.inl rfl)⟩
        · obtain ⟨w, hw, hin⟩ := hr.complete k p hmem
          exact ⟨w, hw, mem_insertLine.2 (.inr hin)⟩
      · rcases mem_insertLine.1 hl with rfl | hl
        · exact ⟨List.mem_cons_self, hkey⟩
        · obtain ⟨hmem, hparse⟩ := hr.sound l hl
          exact ⟨List.mem_cons_of_mem _ hmem, hparse⟩

theorem mem_sortedLines {lines : List (String × String)} {l : String × String} :
    l ∈ sortedLines lines ↔ l ∈ lines :=
  (List.mergeSort_perm lines _).mem_iff

/-- In a list sorted by a reflexive order, the first element that passes a test is below every
element that passes it. -/
theorem find?_least_of_pairwise {α : Type} {R : α → α → Prop} (hrefl : ∀ a, R a a)
    {p : α → Bool} {xs : List α} (hsorted : xs.Pairwise R) {x : α} (hfound : xs.find? p = some x) :
    ∀ y ∈ xs, p y = true → R x y := by
  induction xs with
  | nil => cases hfound
  | cons a xs ih =>
    rw [List.pairwise_cons] at hsorted
    obtain ⟨ha, hxs⟩ := hsorted
    intro y hy hpy
    by_cases hpa : p a = true
    · -- the head passes, so it is the one found
      rw [List.find?_cons_of_pos hpa] at hfound
      cases hfound
      rcases List.mem_cons.1 hy with rfl | hy
      · exact hrefl _
      · exact ha y hy
    · rw [List.find?_cons_of_neg hpa] at hfound
      rcases List.mem_cons.1 hy with rfl | hy
      · exact absurd hpy hpa
      · exact ih hxs hfound y hy hpy

/-! ### What the choice gives -/

namespace AssemblerSearch

/-- The name looked for on the search path: the configured binary, or `ilasm`. -/
def binaryName (s : AssemblerSearch) : String := if s.binary = "" then defaultAssembler else s.binary

/-- `p` is configured, and not empty, under the requirement's line as written. -/
def LineAt (s : AssemblerSearch) (req : RuntimeVersion) (p : String) : Prop :=
  (req.line, p) ∈ s.lines ∧ p ≠ ""

/-- Every configured key reads as a version. -/
def KeysRead (s : AssemblerSearch) : Prop :=
  ∀ key path, (key, path) ∈ s.lines → ∃ v, RuntimeVersion.parse key = .ok v

/-- A configured line with a path whose key reads as a version at or above the requirement. -/
def Reaches (req : RuntimeVersion) (key path : String) (v : RuntimeVersion) : Prop :=
  path ≠ "" ∧ RuntimeVersion.parse key = .ok v ∧ 0 ≤ v.compare req

/-- `p` is the path of a line that reaches the requirement with a version no higher than that
of any other such line. -/
def LowestReaching (s : AssemblerSearch) (req : RuntimeVersion) (p : String) : Prop :=
  ∃ key v, (key, p) ∈ s.lines ∧ Reaches req key p v ∧
    ∀ key' p' v', (key', p') ∈ s.lines → Reaches req key' p' v' → v.compare v' ≤ 0

/-- No configured line reaches the requirement. -/
def NoneReaches (s : AssemblerSearch) (req : RuntimeVersion) : Prop :=
  ∀ key path v, (key, path) ∈ s.lines → ¬ Reaches req key path v

/-- What choosing the assembler for `req` may give. -/
def Chooses (s : AssemblerSearch) (req : RuntimeVersion) : Except Fault String → Prop
  | .ok p =>
    s.LineAt req p ∨
      ((¬ ∃ q, s.LineAt req q) ∧ s.KeysRead ∧ s.LowestReaching req p) ∨
      ((¬ ∃ q, s.LineAt req q) ∧ s.KeysRead ∧ s.NoneReaches req ∧ s.lookPath s.binaryName = .ok p)
  | .error f =>
    ((¬ ∃ q, s.LineAt req q) ∧ ¬ s.KeysRead ∧ f.code = Code.badConfig) ∨
      ((¬ ∃ q, s.LineAt req q) ∧ s.KeysRead ∧ s.NoneReaches req ∧
        (∃ e, s.lookPath s.binaryName = .error e) ∧ f.code = Code.assemblerNotFound)

/-! ### How the search runs -/

/-- The test the configured lines are searched with first: the requirement's line as written,
with a path. -/
abbrev exactTest (req : RuntimeVersion) (l : String × String) : Bool :=
  l.1 == req.line && l.2 != ""

/-- The test the read lines are searched with next: a path, at or above the requirement. -/
abbrev reachTest (req : RuntimeVersion) (l : ReadLine) : Bool :=
  l.2.2 != "" && decide (RuntimeVersion.compare l.1 req ≥ 0)

theorem exactTest_iff {req : RuntimeVersion} {l : String × String} :
    exactTest req l = true ↔ l.1 = req.line ∧ l.2 ≠ "" := by
  simp [exactTest]

theorem reachTest_iff {req : RuntimeVersion} {l : ReadLine} :
    reachTest req l = true ↔ l.2.2 ≠ "" ∧ 0 ≤ l.1.compare req := by
  simp [reachTest]

theorem sortedLines_nil : sortedLines [] = [] := by
  unfold sortedLines
  exact List.mergeSort_nil

theorem parseLines_sortedLines_nil : parseLines (sortedLines []) = .ok [] := by
  rw [sortedLines_nil]
  rfl

variable {s : AssemblerSearch} {req : RuntimeVersion}

theorem resolve_of_exact {l : String × String} (hexact : s.lines.find? (exactTest req) = some l) :
    s.resolve req = .ok l.2 := by
  have hne : s.lines.isEmpty = false := by
    cases hl : s.lines with
    | nil => rw [hl] at hexact; cases hexact
    | cons _ _ => rfl
  simp [resolve, hne, hexact]

theorem resolve_of_unread {e : Fault} (hexact : s.lines.find? (exactTest req) = none)
    (hparse : parseLines (sortedLines s.lines) = .error e) : s.resolve req = .error e := by
  have hne : s.lines.isEmpty = false := by
    cases hl : s.lines with
    | nil =>
      rw [hl, parseLines_sortedLines_nil] at hparse
      cases hparse
    | cons _ _ => rfl
  simp [resolve, hne, hexact, hparse]

theorem resolve_of_reached {parsed : List ReadLine} {l : ReadLine}
    (hexact : s.lines.find? (exactTest req) = none)
    (hparse : parseLines (sortedLines s.lines) = .ok parsed)
    (hreach : parsed.find? (reachTest req) = some l) : s.resolve req = .ok l.2.2 := by
  have hne : s.lines.isEmpty = false := by
    cases hl : s.lines with
    | nil =>
      rw [hl, parseLines_sortedLines_nil] at hparse
      cases hparse
      cases hreach
    | cons _ _ => rfl
  simp [resolve, hne, hexact, hparse, hreach]

-- With no configured lines the search goes straight to the path; the hypotheses then hold of
-- the empty reading, so one statement covers both ways of reaching the path.
theorem resolve_of_unreached_found {parsed : List ReadLine} {p : String}
    (hexact : s.lines.find? (exactTest req) = none)
    (hparse : parseLines (sortedLines s.lines) = .ok parsed)
    (hreach : parsed.find? (reachTest req) = none) (hpath : s.lookPath s.binaryName = .ok p) :
    s.resolve req = .ok p := by
  rw [binaryName] at hpath
  by_cases hempty : s.lines.isEmpty = true
  · simp [resolve, hempty, hpath]
  · simp [resolve, hempty, hexact, hparse, hreach, hpath]

/-- When no assembler is found on the path, the fault names the runtime and the binary looked for. -/
theorem resolve_of_unreached_missing {parsed : List ReadLine} {e : Fault}
    (hexact : s.lines.find? (exactTest req) = none)
    (hparse : parseLines (sortedLines s.lines) = .ok parsed)
    (hreach : parsed.find? (reachTest req) = none) (hpath : s.lookPath s.binaryName = .error e) :
    s.resolve req = .error (.wrap Code.assemblerNotFound e
      ("no assembler for runtime " ++ req.render ++ " (looked for " ++ Text.quote s.binaryName ++
        " on PATH)")) := by
  rw [binaryName] at hpath ⊢
  by_cases hempty : s.lines.isEmpty = true
  · simp [resolve, hempty, hpath]
  · simp [resolve, hempty, hexact, hparse, hreach, hpath]

/-! ### From the run to the specification -/

theorem lineAt_of_find? {l : String × String} (hexact : s.lines.find? (exactTest req) = some l) :
    s.LineAt req l.2 := by
  obtain ⟨hkey, hpath⟩ := exactTest_iff.1 (List.find?_some hexact)
  have hmem : (l.1, l.2) ∈ s.lines := List.mem_of_find?_eq_some hexact
  rw [hkey] at hmem
  exact ⟨hmem, hpath⟩

theorem no_lineAt_of_find? (hexact : s.lines.find? (exactTest req) = none) :
    ¬ ∃ q, s.LineAt req q := by
  rintro ⟨q, hmem, hq⟩
  exact List.find?_eq_none.1 hexact _ hmem (exactTest_iff.2 ⟨rfl, hq⟩)

section Reading

variable {parsed : List ReadLine} (hr : ReadsLines (sortedLines s.lines) parsed)
include hr

theorem keysRead_of_reads : s.KeysRead := by
  intro key path hmem
  obtain ⟨v, hv, -⟩ := hr.complete key path (mem_sortedLines.2 hmem)
  exact ⟨v, hv⟩

/-- A configured line that reaches the requirement is read, and passes the search's test. -/
theorem read_of_reaches {key path : String} {v : RuntimeVersion} (hmem : (key, path) ∈ s.lines)
    (hreaches : Reaches req key path v) : (v, key, path) ∈ parsed ∧ reachTest req (v, key, path) = true := by
  obtain ⟨hpath, hv, hcmp⟩ := hreaches
  obtain ⟨w, hw, hin⟩ := hr.complete key path (mem_sortedLines.2 hmem)
  rw [hv] at hw
  cases hw
  exact ⟨hin, reachTest_iff.2 ⟨hpath, hcmp⟩⟩

-- The read lines are sorted by version, so the first one that passes is a lowest one.
theorem lowestReaching_of_find? {l : ReadLine} (hreach : parsed.find? (reachTest req) = some l) :
    s.LowestReaching req l.2.2 := by
  obtain ⟨hmem, hparse⟩ := hr.sound l (List.mem_of_find?_eq_some hreach)
  obtain ⟨hpath, hcmp⟩ := reachTest_iff.1 (List.find?_some hreach)
  refine ⟨l.2.1, l.1, mem_sortedLines.1 hmem, ⟨hpath, hparse, hcmp⟩, fun key p v hmem' hreaches => ?_⟩
  obtain ⟨hin, htest⟩ := read_of_reaches hr hmem' hreaches
  exact find?_least_of_pairwise ReadLine.le_refl hr.sorted hreach _ hin htest

theorem noneReaches_of_find? (hreach : parsed.find? (reachTest req) = none) : s.NoneReaches req := by
  intro key path v hmem hreaches
  obtain ⟨hin, htest⟩ := read_of_reaches hr hmem hreaches
  exact List.find?_eq_none.1 hreach _ hin htest

end Reading

theorem not_keysRead_of_unread {e : Fault} (hparse : parseLines (sortedLines s.lines) = .error e) :
    ¬ s.KeysRead := by
  obtain ⟨-, key, path, e', hmem, hkey⟩ := parseLines_error hparse
  intro hread
  obtain ⟨v, hv⟩ := hread key path (mem_sortedLines.1 hmem)
  rw [hkey] at hv
  cases hv

/-- The assembler chosen for a requirement is one `Chooses` allows, for every table of lines,
binary name and search of the path. -/
theorem resolve_chooses (s : AssemblerSearch) (req : RuntimeVersion) : s.Chooses req (s.resolve req) := by
  cases hexact : s.lines.find? (exactTest req) with
  | some l =>
    rw [resolve_of_exact hexact]
    exact .inl (lineAt_of_find? hexact)
  | none =>
    have hno := no_lineAt_of_find? hexact
    cases hparse : parseLines (sortedLines s.lines) with
    | error e =>
      rw [resolve_of_unread hexact hparse]
      exact .inl ⟨hno, not_keysRead_of_unread hparse, (parseLines_error hparse).1⟩
    | ok parsed =>
      have hr := parseLines_ok hparse
      cases hreach : parsed.find? (reachTest req) with
      | some l =>
        rw [resolve_of_reached hexact hparse hreach]
        exact .inr (.inl ⟨hno, keysRead_of_reads hr, lowestReaching_of_find? hr hreach⟩)
      | none =>
        have hnone := noneReaches_of_find? hr hreach
        cases hpath : s.lookPath s.binaryName with
        | ok p =>
          rw [resolve_of_unreached_found hexact hparse hreach hpath]
          exact .inr (.inr ⟨hno, keysRead_of_reads hr, hnone, hpath⟩)
        | error e =>
          rw [resolve_of_unreached_missing hexact hparse hreach hpath]
          exact .inr ⟨hno, keysRead_of_reads hr, hnone, ⟨e, hpath⟩, rfl⟩

/-- Line 4.0 configured under the key "4.0", and a search of the path that finds every binary
under "/bin". -/
def respelledLineSearch : AssemblerSearch :=
  ⟨[("4.0", "/opt/ilasm4")], "", fun name => .ok ("/bin/" ++ name)⟩

/-- The key "4.0" reads as a version of the same line as v4.0.30319, but it is not that line as
written, and its version is below the requirement: the path search answers, not the configured
path. -/
theorem respelled_line_passed_over :
    RuntimeVersion.parse "4.0" = .ok ⟨4, 0, 0⟩ ∧
      RuntimeVersion.line ⟨4, 0, 0⟩ = RuntimeVersion.line ⟨4, 0, 30319⟩ ∧
      respelledLineSearch.resolve ⟨4, 0, 30319⟩ = .ok "/bin/ilasm" := by
  have hparse : RuntimeVersion.parse "4.0" = .ok ⟨4, 0, 0⟩ := by
    -- the key has no blanks and no "v", and its dot splits it into two integers
    have htrim : Text.trimBlank "4.0" = "4.0" := by decide
    have hv : "4.0".startsWith "v" = false := by simp +decide
    have hV : "4.0".startsWith "V" = false := by simp +decide
    have hsplit : "4.0".splitOn "." = ["4", "0"] := by
      simp +decide [String.splitOn, String.splitOnAux]
    have h4 : RuntimeVersion.readInteger "4" = some 4 := by decide
    have h0 : RuntimeVersion.readInteger "0" = some 0 := by decide
    simp only [RuntimeVersion.parse, htrim, hv, hV, Bool.false_eq_true, if_false]
    rw [if_neg (by decide), hsplit]
    simp [h4, h0]
  have hsorted : sortedLines respelledLineSearch.lines = respelledLineSearch.lines := by
    unfold sortedLines
    exact List.mergeSort_singleton _
  have hread : parseLines (sortedLines respelledLineSearch.lines) =
      .ok [(⟨4, 0, 0⟩, "4.0", "/opt/ilasm4")] := by
    rw [hsorted]
    show parseLines [("4.0", "/opt/ilasm4")] = _
    unfold parseLines
    rw [hparse]
    rfl
  refine ⟨hparse, rfl, resolve_of_unreached_found ?_ hread ?_ rfl⟩
  · -- "4.0" is not "v4.0"
    decide
  · -- version 4.0 is below 4.0.30319
    decide

end AssemblerSearch

end NativeExports

import Mathlib
import NativeExports.Image.File
import NativeExports.Proofs.ExceptSteps
import NativeExports.Proofs.ImageCodec
/-!
Purpose: what each operation of a workspace changes, so that a run of writes can be followed
key by key without unfolding the operations again.

A workspace keeps its entries under cleaned keys (`Workspace.entryAt`), and a path reaches the
entry of its key.  Each operation that succeeds has one inversion lemma saying everything it
did (`writeFile_eq_ok`, `rename_eq_ok`, `writeTemp_eq_ok`), and what a run of operations
leaves alone is `Workspace.Writes w w' ks`: outside the keys `ks` every entry stays and only
directories are added, and every directory stays, inside `ks` too.  Runs compose
(`Writes.trans`), and a path whose directories are all there stays reachable
(`wayProblem?_of_writes`).

Main result: `place_eq_ok`, the write of a file through a temporary file of its directory that
both the image writer and the cache index use: it writes the file and the temporary key and
nothing else, and leaves the file's directories reachable.
-/

namespace NativeExports

namespace Workspace

/-- The entry stored under a key. -/
def entryAt (w : Workspace) (k : String) : Option Entry :=
  (w.entries.find? (·.1 == k)).map (·.2)

/-! ### Keys and entries -/

theorem key?_eq_some {p k : String} (h : key? p = some k) : k = Path.clean p := by
  simp only [key?] at h
  split at h
  · cases h
  · exact (Option.some.inj h).symm

/-- A path whose key is not the working directory reaches the entry of its key. -/
theorem find?_of_key? (w : Workspace) {p k : String} (h : key? p = some k) (hk : k ≠ ".") :
    w.find? p = w.entryAt k := by
  unfold find?
  rw [h]
  split
  · rename_i hnone
    cases hnone
  · rename_i hdot
    cases hdot
    exact absurd rfl hk
  · rename_i k' _ hk'
    cases hk'
    rfl

/-- The working directory is always a directory. -/
theorem find?_of_key?_dot (w : Workspace) {p : String} (h : key? p = some ".") :
    w.find? p = some .directory := by
  unfold find?
  rw [h]
  rfl

/-- Replacing the entry of `k` where it stands leaves the first entry of every other key. -/
theorem find?_map_replace (l : List (String × Entry)) {g : String × Entry → String × Entry}
    {k : String} {e : Entry} (hfst : ∀ p, (g p).1 = p.1)
    (hsnd : ∀ p, (g p).2 = if p.1 = k then e else p.2) (k' : String) :
    ((l.map g).find? (·.1 == k')).map (·.2) =
      if k' = k ∧ l.any (·.1 == k) then some e else (l.find? (·.1 == k')).map (·.2) := by
  induction l with
  | nil => simp
  | cons p l ih =>
    rw [List.map_cons, List.find?_cons, List.find?_cons, hfst, List.any_cons]
    by_cases hp : p.1 = k'
    · -- the head is the first entry of `k'`
      subst hp
      by_cases hk : p.1 = k <;> simp [hk, hsnd]
    · have hb : (p.1 == k') = false := by simpa using hp
      simp only [hb]
      rw [ih]
      by_cases hk : k' = k
      · subst hk
        rw [hb, Bool.false_or]
      · simp [hk]

/-- Dropping the entries of `k` leaves the first entry of every other key. -/
theorem find?_filter_ne (l : List (String × Entry)) (k k' : String) :
    ((l.filter (·.1 != k)).find? (·.1 == k')).map (·.2) =
      if k' = k then none else (l.find? (·.1 == k')).map (·.2) := by
  induction l with
  | nil => simp
  | cons a l ih =>
    obtain ⟨a, x⟩ := a
    by_cases hak : a = k <;> by_cases ha : a = k' <;> by_cases hk : k' = k <;> simp_all

theorem entryAt_setEntry (w : Workspace) (k k' : String) (e : Entry) :
    (w.setEntry k e).entryAt k' = if k' = k then some e else w.entryAt k' := by
  unfold setEntry entryAt
  split
  · rename_i hany
    rw [find?_map_replace (k := k) (e := e) _ (fun ⟨a, b⟩ => by by_cases h : a = k <;> simp [h])
      (fun ⟨a, b⟩ => by by_cases h : a = k <;> simp [h])]
    by_cases hk : k' = k <;> simp [hk, hany]
  · rename_i hany
    -- the key is new, so its entry is the one appended
    rw [List.find?_append]
    by_cases hk : k' = k
    · subst hk
      have hnone : w.entries.find? (·.1 == k') = none := by
        rw [List.find?_eq_none]
        intro x hx hxk
        exact hany (List.any_eq_true.2 ⟨x, hx, hxk⟩)
      simp [hnone]
    · rw [if_neg hk]
      cases w.entries.find? (·.1 == k') with
      | none => simp [Ne.symm hk]
      | some y => rfl

theorem entryAt_remove (w : Workspace) {p k : String} (h : key? p = some k) (k' : String) :
    (w.remove p).entryAt k' = if k' = k then none else w.entryAt k' := by
  unfold remove entryAt
  rw [h]
  exact find?_filter_ne w.entries k k'

@[simp] theorem entryAt_withTemps (w : Workspace) (n : Nat) (k : String) :
    ({ w with madeTemps := n } : Workspace).entryAt k = w.entryAt k := rfl

@[simp] theorem setEntry_madeTemps (w : Workspace) (k : String) (e : Entry) :
    (w.setEntry k e).madeTemps = w.madeTemps := by
  unfold setEntry
  split <;> rfl

@[simp] theorem remove_madeTemps (w : Workspace) (p : String) :
    (w.remove p).madeTemps = w.madeTemps := by
  unfold remove
  split <;> rfl

/-! ### What a run of writes leaves alone -/

/-- Outside the keys `ks` the second workspace keeps every entry of the first and adds only
directories, and it keeps every directory of the first. -/
structure Writes (w w' : Workspace) (ks : List String) : Prop where
  frames : ∀ k, k ∉ ks →
    w'.entryAt k = w.entryAt k ∨ (w.entryAt k = none ∧ w'.entryAt k = some .directory)
  keepsDirs : ∀ k, w.entryAt k = some .directory → w'.entryAt k = some .directory

theorem Writes.refl (w : Workspace) : Writes w w [] :=
  ⟨fun _ _ => .inl rfl, fun _ h => h⟩

theorem Writes.trans {w₁ w₂ w₃ : Workspace} {ks ks' : List String} (h₁ : Writes w₁ w₂ ks)
    (h₂ : Writes w₂ w₃ ks') : Writes w₁ w₃ (ks ++ ks') := by
  refine ⟨fun k hk => ?_, fun k hk => h₂.keepsDirs k (h₁.keepsDirs k hk)⟩
  have hk₁ : k ∉ ks := fun h => hk (List.mem_append_left _ h)
  have hk₂ : k ∉ ks' := fun h => hk (List.mem_append_right _ h)
  rcases h₁.frames k hk₁ with heq₁ | ⟨hnone, hdir₁⟩
  · rcases h₂.frames k hk₂ with heq₂ | ⟨hnone₂, hdir₂⟩
    · exact .inl (heq₂.trans heq₁)
    · exact .inr ⟨heq₁ ▸ hnone₂, hdir₂⟩
  · -- a directory added by the first run is kept by the second
    exact .inr ⟨hnone, h₂.keepsDirs k hdir₁⟩

theorem Writes.mono {w w' : Workspace} {ks ks' : List String} (h : Writes w w' ks)
    (hsub : ∀ k ∈ ks, k ∈ ks') : Writes w w' ks' :=
  ⟨fun k hk => h.frames k fun hks => hk (hsub k hks), h.keepsDirs⟩

/-- Setting a key that holds no directory writes that key. -/
theorem writes_setEntry (w : Workspace) {k : String} (e : Entry)
    (hdir : w.entryAt k ≠ some .directory) : Writes w (w.setEntry k e) [k] := by
  refine ⟨fun k' hk' => .inl ?_, fun k' hk' => ?_⟩
  · rw [entryAt_setEntry, if_neg (by simpa using hk')]
  · have hne : k' ≠ k := fun h => hdir (h ▸ hk')
    rw [entryAt_setEntry, if_neg hne, hk']

/-- Making a directory where there is none, or where there is one, writes no key. -/
theorem writes_setEntry_directory (w : Workspace) {k : String}
    (hfree : w.entryAt k = none ∨ w.entryAt k = some .directory) :
    Writes w (w.setEntry k .directory) [] := by
  refine ⟨fun k' _ => ?_, fun k' hk' => ?_⟩
  · by_cases hk : k' = k
    · subst hk
      rw [entryAt_setEntry, if_pos rfl]
      rcases hfree with hnone | hdir
      · exact .inr ⟨hnone, rfl⟩
      · exact .inl hdir.symm
    · exact .inl (by rw [entryAt_setEntry, if_neg hk])
  · rw [entryAt_setEntry]
    split <;> simp_all

/-- Removing a path whose key holds no directory writes that key. -/
theorem writes_remove (w : Workspace) {p k : String} (h : key? p = some k)
    (hdir : w.entryAt k ≠ some .directory) : Writes w (w.remove p) [k] := by
  refine ⟨fun k' hk' => .inl ?_, fun k' hk' => ?_⟩
  · rw [entryAt_remove w h, if_neg (by simpa using hk')]
  · have hne : k' ≠ k := fun he => hdir (he ▸ hk')
    rw [entryAt_remove w h, if_neg hne, hk']

/-- A path reached through directories only stays reached while every directory stays. -/
theorem wayProblem?_of_writes {w w' : Workspace} {ks : List String} (hw : Writes w w' ks)
    {p : String} (h : w.wayProblem? p = none) : w'.wayProblem? p = none := by
  have hdirs : ∀ q, w.find? q = some .directory → w'.find? q = some .directory := by
    intro q hq
    unfold find? at hq ⊢
    split at hq
    · cases hq
    · rfl
    · exact hw.keepsDirs _ hq
  unfold wayProblem? at h ⊢
  split at h
  · cases h
  · rename_i k _
    rw [List.findSome?_eq_none_iff] at h ⊢
    intro parent hparent
    have hpar := h parent hparent
    split at hpar
    · cases hpar
    · cases hpar
    · rename_i hfound
      simp [hdirs parent hfound]

theorem Writes.withTemps {w w' : Workspace} {ks : List String} (h : Writes w w' ks) (n : Nat) :
    Writes w { w' with madeTemps := n } ks :=
  ⟨fun k hk => by simpa using h.frames k hk, fun k hk => by simpa using h.keepsDirs k hk⟩

/-- A path reaches a file with these bytes, through directories that are all there. -/
def Stores (w : Workspace) (p : String) (bytes : List UInt8) : Prop :=
  w.wayProblem? p = none ∧ w.find? p = some (.file bytes)

theorem readFile_of_stores {w : Workspace} {p : String} {bytes : List UInt8}
    (h : w.Stores p bytes) : w.readFile p = .ok bytes := by
  unfold readFile
  rw [h.1, h.2]

theorem isDirectory_of_stores {w : Workspace} {p : String} {bytes : List UInt8}
    (h : w.Stores p bytes) : w.isDirectory p = false := by
  unfold isDirectory
  rw [h.2]

/-- A stored image reads back. -/
theorem readImage_of_stores {w : Workspace} {p : String} {img : Image}
    (h : w.Stores p img.encode) (hfit : img.Fits) :
    w.readImage p = .ok { img with schema := imageSchema } := by
  unfold Workspace.readImage
  rw [isDirectory_of_stores h, readFile_of_stores h]
  simp [decode_encode img hfit]

/-- A stored file has a key. -/
theorem key?_of_stores {w : Workspace} {p : String} {bytes : List UInt8}
    (h : w.Stores p bytes) : ∃ k, key? p = some k := by
  have hfind := h.2
  unfold find? at hfind
  split at hfind
  · cases hfind
  · rename_i hdot
    exact ⟨".", hdot⟩
  · rename_i k _ hkey
    exact ⟨k, hkey⟩

/-- A stored file stays while its key is not written. -/
theorem Stores.of_writes {w w' : Workspace} {p k : String} {ks : List String}
    {bytes : List UInt8} (h : w.Stores p bytes) (hw : Writes w w' ks) (hk : key? p = some k)
    (hks : k ∉ ks) : w'.Stores p bytes := by
  have hdot : k ≠ "." := by
    rintro rfl
    have := h.2
    rw [w.find?_of_key?_dot hk] at this
    cases this
  have hentry : w.entryAt k = some (.file bytes) := by rw [← w.find?_of_key? hk hdot]; exact h.2
  refine ⟨wayProblem?_of_writes hw h.1, ?_⟩
  rw [w'.find?_of_key? hk hdot]
  rcases hw.frames k hks with heq | ⟨hnone, _⟩
  · rw [heq, hentry]
  · rw [hentry] at hnone
    cases hnone

/-! ### One lemma per operation -/

/-- A file written: its path has a key other than the working directory, its directories are
there, its key held no directory, and now holds the file. -/
theorem writeFile_eq_ok {w w' : Workspace} {p : String} {bytes : List UInt8}
    (h : w.writeFile p bytes = .ok w') :
    ∃ k, key? p = some k ∧ k ≠ "." ∧ w.wayProblem? p = none ∧ w.entryAt k ≠ some .directory ∧
      w' = w.setEntry k (.file bytes) := by
  unfold writeFile at h
  split at h
  · cases h
  · cases h
  · rename_i k hway hkey
    split at h
    · cases h
    · rename_i hfind
      cases h
      by_cases hdot : k = "."
      · subst hdot
        exact absurd (w.find?_of_key?_dot hkey) hfind
      · exact ⟨k, hkey, hdot, hway, by rwa [← w.find?_of_key? hkey hdot], rfl⟩

/-- A file written writes its key only, and is then stored. -/
theorem writeFile_writes {w w' : Workspace} {p : String} {bytes : List UInt8}
    (h : w.writeFile p bytes = .ok w') :
    ∃ k, key? p = some k ∧ Writes w w' [k] ∧ w'.entryAt k = some (.file bytes) ∧
      w'.Stores p bytes ∧ w'.madeTemps = w.madeTemps := by
  obtain ⟨k, hkey, hdot, hway, hdir, rfl⟩ := writeFile_eq_ok h
  have hw := w.writes_setEntry (.file bytes) hdir
  have hentry : (w.setEntry k (.file bytes)).entryAt k = some (.file bytes) := by
    simp [entryAt_setEntry]
  refine ⟨k, hkey, hw, hentry, ⟨wayProblem?_of_writes hw hway, ?_⟩, by simp⟩
  rw [find?_of_key? _ hkey hdot, hentry]

/-- A file read: its path reaches a file under its key. -/
theorem readFile_eq_ok {w : Workspace} {p : String} {bytes : List UInt8}
    (h : w.readFile p = .ok bytes) :
    ∃ k, key? p = some k ∧ w.entryAt k = some (.file bytes) := by
  unfold readFile at h
  split at h
  · cases h
  · split at h
    · cases h
    · cases h
    · rename_i hfind
      cases h
      unfold find? at hfind
      split at hfind
      · cases hfind
      · cases hfind
      · rename_i k _ hkey
        exact ⟨k, hkey, hfind⟩

/-- Making a directory where there was nothing, after its parents, writes no key. -/
theorem mkdirAll_last {w w₁ w' : Workspace} {p : String} (hfind : w.find? p = none)
    (hw₁ : Writes w w₁ []) (hmade : w₁.madeTemps = w.madeTemps)
    (h : (match key? p with
      | none => Except.error (systemFault "mkdir" p "no such file or directory")
      | some k => pure (w₁.setEntry k Entry.directory) : Except Fault Workspace) = .ok w') :
    Writes w w' [] ∧ w'.madeTemps = w.madeTemps := by
  split at h
  · cases h
  · rename_i k hkey
    cases h
    have hdot : k ≠ "." := by
      rintro rfl
      rw [w.find?_of_key?_dot hkey] at hfind
      cases hfind
    have hnone : w.entryAt k = none := by rwa [← w.find?_of_key? hkey hdot]
    have hfree : w₁.entryAt k = none ∨ w₁.entryAt k = some .directory := by
      rcases hw₁.frames k List.not_mem_nil with heq | ⟨_, hdir⟩
      · exact .inl (heq.trans hnone)
      · exact .inr hdir
    exact ⟨hw₁.trans (w₁.writes_setEntry_directory hfree), by simp [hmade]⟩

/-- Making directories writes no key and makes no temporary file. -/
theorem mkdirAll_eq_ok {w w' : Workspace} {p : String} {fuel : Nat}
    (h : w.mkdirAll p fuel = .ok w') : Writes w w' [] ∧ w'.madeTemps = w.madeTemps := by
  induction fuel generalizing w w' p with
  | zero =>
    cases h
    exact ⟨Writes.refl w, rfl⟩
  | succ fuel ih =>
    unfold mkdirAll at h
    split at h
    · cases h
      exact ⟨Writes.refl w, rfl⟩
    · cases h
    · rename_i hfind
      simp only at h
      -- the parents first, when the path names one
      split at h
      · obtain ⟨w₁, hparents, hrest⟩ := except_bind_eq_ok h
        obtain ⟨hw₁, hmade₁⟩ := ih hparents
        exact mkdirAll_last hfind hw₁ hmade₁ hrest
      · exact mkdirAll_last hfind (Writes.refl w) rfl h

theorem makeDirs_eq_ok {w w' : Workspace} {p : String} (h : w.makeDirs p = .ok w') :
    Writes w w' [] ∧ w'.madeTemps = w.madeTemps :=
  mkdirAll_eq_ok h

/-- A file moved: the source held a file, and now the destination stores it (unless the two
are one key) and the source holds nothing. -/
theorem rename_eq_ok {w w' : Workspace} {src dst : String} (h : w.rename src dst = .ok w') :
    ∃ ks kd bytes, key? src = some ks ∧ key? dst = some kd ∧
      w.entryAt ks = some (.file bytes) ∧ Writes w w' [kd, ks] ∧
      (ks ≠ kd → w'.Stores dst bytes) ∧ w'.madeTemps = w.madeTemps := by
  unfold rename at h
  cases hfile : w.readFile src with
  | error e => rw [hfile] at h; cases h
  | ok b =>
    rw [hfile] at h
    obtain ⟨ks, hks, hentry⟩ := readFile_eq_ok hfile
    split at h
    · cases h
    · simp only [mapError_except_ok, except_ok_bind] at h
      obtain ⟨w₁, hwrite, hdone⟩ := except_bind_eq_ok h
      cases hdone
      cases hwritten : w.writeFile dst b with
      | error e => rw [hwritten] at hwrite; cases hwrite
      | ok w₂ =>
        rw [hwritten, mapError_except_ok, Except.ok.injEq] at hwrite
        subst hwrite
        obtain ⟨kd, hkd, hw₁, hfile₁, hstored, hmade⟩ := writeFile_writes hwritten
        -- the source still holds its file, so removing it keeps every directory
        have hsrc : w₂.entryAt ks = some (.file b) := by
          by_cases hk : ks = kd
          · rw [hk, hfile₁]
          · rcases hw₁.frames ks (by simpa using hk) with heq | ⟨hnone, _⟩
            · rw [heq, hentry]
            · rw [hentry] at hnone
              cases hnone
        have hw₂ := w₂.writes_remove hks (by rw [hsrc]; simp)
        refine ⟨ks, kd, b, hks, hkd, hentry, (hw₁.trans hw₂).mono (by simp), fun hne => ?_,
          by simp [hmade]⟩
        exact hstored.of_writes hw₂ hkd (by simpa using Ne.symm hne)

/-- A temporary file written: it is named by the count of temporary files so far, it writes
its key only, and the count goes up by one. -/
theorem writeTemp_eq_ok {w w' : Workspace} {dir pre suf name : String} {bytes : List UInt8}
    (h : w.writeTemp dir pre suf bytes = .ok (w', name)) :
    name = Path.join [dir, pre ++ toString (w.madeTemps + 1) ++ suf] ∧
      ∃ k, key? name = some k ∧ Writes w w' [k] ∧ w'.entryAt k = some (.file bytes) ∧
        w'.madeTemps = w.madeTemps + 1 := by
  unfold writeTemp at h
  obtain ⟨w₁, hwrite, hdone⟩ := except_bind_eq_ok h
  cases hdone
  obtain ⟨k, hkey, hw₁, hfile, -, -⟩ := writeFile_writes hwrite
  exact ⟨rfl, k, hkey, hw₁.withTemps _, by simpa using hfile, rfl⟩

/-! ### Writing a file through a temporary file -/

/-- The path of the temporary file that the `n`-th temporary write for `p` makes beside it. -/
def tempBeside (p pre : String) (n : Nat) : String :=
  Path.join [Path.dir p, pre ++ toString n ++ ""]

/-- A file put in place through a temporary file of its directory: the run writes the
file's key and the temporary key only, the file is then stored (unless the two keys are one),
and one more temporary file was made. -/
theorem place_eq_ok {w w₁ w₂ w' : Workspace} {p pre tmp : String} {bytes : List UInt8}
    (hdirs : w.makeDirs (Path.dir p) = .ok w₁)
    (htemp : w₁.writeTemp (Path.dir p) pre "" bytes = .ok (w₂, tmp))
    (hmove : w₂.rename tmp p = .ok w') :
    ∃ kp kt, key? p = some kp ∧ key? (tempBeside p pre (w.madeTemps + 1)) = some kt ∧
      Writes w w' [kp, kt] ∧ (kt ≠ kp → w'.Stores p bytes) ∧
      w'.madeTemps = w.madeTemps + 1 := by
  obtain ⟨hw₁, hmade₁⟩ := makeDirs_eq_ok hdirs
  obtain ⟨rfl, kt, hkt, hw₂, hfile₂, hmade₂⟩ := writeTemp_eq_ok htemp
  obtain ⟨ks, kp, b, hks, hkp, hentry, hw', hstored, hmade'⟩ := rename_eq_ok hmove
  -- what is moved is the temporary file just written
  have hks : ks = kt := Option.some.inj (hks.symm.trans hkt)
  subst hks
  have hb : b = bytes := by
    rw [hfile₂] at hentry
    cases hentry
    rfl
  subst hb
  refine ⟨kp, ks, hkp, by rw [← hmade₁]; exact hkt, ?_, hstored, by omega⟩
  exact ((hw₁.trans hw₂).trans hw').mono (by simp)

/-- An image written: the run writes the image's key and its temporary key only, and the
image's bytes are then stored at its path (unless the two keys are one). -/
theorem writeImage_eq_ok {w w' : Workspace} {p : String} {img : Image}
    (h : w.writeImage p img = .ok w') :
    ∃ kp kt, key? p = some kp ∧ key? (tempBeside p ".image-" (w.madeTemps + 1)) = some kt ∧
      Writes w w' [kp, kt] ∧ (kt ≠ kp → w'.Stores p img.encode) ∧
      w'.madeTemps = w.madeTemps + 1 := by
  unfold writeImage at h
  obtain ⟨w₁, hdirs, h⟩ := except_bind_eq_ok h
  obtain ⟨⟨w₂, tmp⟩, htemp, hmove⟩ := except_bind_eq_ok h
  exact place_eq_ok hdirs htemp hmove

end Workspace

end NativeExports

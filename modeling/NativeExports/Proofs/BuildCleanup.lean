import Mathlib
import NativeExports.Cli.Run
import NativeExports.Proofs.WorkspaceFrame
/-!
Purpose: what a build leaves behind when the program is not kept.

A build prepares its session, emits the program, finds the assembler, writes the program to a
temporary file `exportgen-N.il`, runs the assembler on it and removes it.  Its steps run in
`Run`, followed here through `Run.go`, the result and console a step leaves.  The host answers
for the file system and the output stream: a write, a close, a removal or the echo of a
command line can fail.

* `Run.Tidy`: a step that writes no file and stops, if at all, with a fault.  It is closed
  under binds, branches and loops, and the whole preparation is tidy (`prepareBuild_tidy`).
* Only the assembler's run sees how started programs behave: every other step is the same on
  `host.relaunch L`, the host whose programs behave as `L`.  "No program is started" is then
  said as "the run is the same whatever programs do".
* `removalOf` is what removing a file gives, and `removeFile_go` says the step does that.
* `writeProgram_go`, `stageProgram_go` and `runProgram_go`: the staging fails before the file
  exists, or fails to write it and removes it again, or writes it; the echo of the command
  line can fail; the assembler either cannot be started, whatever programs do, or runs on a
  file.

Main result: `build_removes_program`, that a build without keeping the program ends in one of
the five ways of `CleanBuild`: a refusal to remove the program is reported only when nothing
failed before it, and a build that ends without a fault leaves no program behind.
-/

namespace NativeExports

/-- A temporary file written is a file. -/
theorem Workspace.writeTemp_isFile {w w' : Workspace} {dir pre suf path : String}
    {bytes : List UInt8} (h : w.writeTemp dir pre suf bytes = .ok (w', path)) :
    w'.isFile path = true := by
  unfold Workspace.writeTemp at h
  obtain ⟨w₁, hwrite, hdone⟩ := except_bind_eq_ok h
  obtain ⟨k, hkey, hdot, -, -, rfl⟩ := Workspace.writeFile_eq_ok hwrite
  cases hdone
  -- the path stays as written: rewriting, not evaluating, reaches the entry of its key
  unfold Workspace.isFile
  rw [Workspace.find?_of_key? _ hkey hdot, Workspace.entryAt_withTemps,
    Workspace.entryAt_setEntry, if_pos rfl]

/-- No file is left at a removed path. -/
theorem Workspace.isFile_remove_self (w : Workspace) (p : String) :
    (w.remove p).isFile p = false := by
  unfold Workspace.isFile
  rcases hkey : Workspace.key? p with _ | k
  · have hnone : (w.remove p).find? p = none := by
      unfold Workspace.find?
      rw [hkey]
    rw [hnone]
  · by_cases hdot : k = "."
    · subst hdot
      rw [Workspace.find?_of_key?_dot _ hkey]
    · rw [Workspace.find?_of_key? _ hkey hdot, Workspace.entryAt_remove _ hkey, if_pos rfl]

namespace Cli

/-- The host with started programs behaving as `L` instead. -/
def Host.relaunch (host : Host) (L : String → List String → Workspace → Nat × String × String) :
    Host :=
  { host with launch := L }

namespace Run

variable {α β : Type}

/-- A step run from a console: its result and the console it leaves. -/
def go (x : Run α) (c : Console) : Except Halt α × Console := x.run.run c

@[simp] theorem go_pure (a : α) (c : Console) : (pure a : Run α).go c = (.ok a, c) := rfl

@[simp] theorem go_throw (h : Halt) (c : Console) : (throw h : Run α).go c = (.error h, c) := rfl

theorem go_bind (x : Run α) (f : α → Run β) (c : Console) :
    (x >>= f).go c = match x.go c with
      | (.ok a, c') => (f a).go c'
      | (.error e, c') => (.error e, c') := by
  simp only [go, ExceptT.run_bind, StateT.run_bind]
  rcases x.run.run c with ⟨_ | a, c'⟩ <;> simp <;> rfl

theorem go_map (f : α → β) (x : Run α) (c : Console) :
    (f <$> x).go c = ((x.go c).1.map f, (x.go c).2) := by
  simp only [go, ExceptT.run_map, StateT.run_map]
  rcases x.run.run c with ⟨_ | a, c'⟩ <;> rfl

@[simp] theorem go_say (s : String) (c : Console) :
    (say s).go c = (.ok (), { c with out := c.out ++ s }) := rfl

@[simp] theorem go_complain (s : String) (c : Console) :
    (complain s).go c = (.ok (), { c with err := c.err ++ s }) := rfl

@[simp] theorem go_currentFiles (c : Console) : currentFiles.go c = (.ok c.files, c) := rfl

@[simp] theorem go_setFiles (w : Workspace) (c : Console) :
    (setFiles w).go c = (.ok (), { c with files := w }) := rfl

@[simp] theorem go_fail (f : Fault) (c : Console) :
    (fail f : Run α).go c = (.error (.fault f), c) := rfl

@[simp] theorem go_orFail (e : Except Fault α) (c : Console) :
    (orFail e).go c = (e.mapError .fault, c) := by
  cases e <;> rfl

/-- An attempt always goes on, with the step's result as its value. -/
theorem go_attempt (x : Run α) (c : Console) :
    (attempt x).go c = (.ok (x.go c).1, (x.go c).2) := by
  simp only [attempt, go, ExceptT.run_tryCatch, ExceptT.run_bind, StateT.run_bind]
  rcases x.run.run c with ⟨_ | a, c'⟩ <;> rfl

/-- A step that writes no file and that, when it stops the run, stops it with a fault. -/
def Tidy (x : Run α) : Prop :=
  ∀ c, (x.go c).2.files = c.files ∧ ∀ h, (x.go c).1 = .error h → ∃ f, h = .fault f

namespace Tidy

theorem pure (a : α) : (Pure.pure a : Run α).Tidy := fun _ => ⟨rfl, by simp⟩

theorem orFail (e : Except Fault α) : (Cli.orFail e).Tidy := by
  intro c
  cases e <;> simp

theorem complain (s : String) : (Cli.complain s).Tidy := fun _ => ⟨rfl, by simp⟩

theorem currentFiles : Cli.currentFiles.Tidy := fun _ => ⟨rfl, by simp⟩

theorem bind {x : Run α} {f : α → Run β} (hx : x.Tidy) (hf : ∀ a, (f a).Tidy) :
    (x >>= f).Tidy := by
  intro c
  obtain ⟨hfiles, hfault⟩ := hx c
  rw [go_bind]
  rcases hgo : x.go c with ⟨_ | a, c'⟩ <;> rw [hgo] at hfiles hfault <;> dsimp only
  · refine ⟨hfiles, ?_⟩
    rintro h ⟨⟩
    exact hfault _ rfl
  · obtain ⟨hfiles', hfault'⟩ := hf a c'
    exact ⟨hfiles'.trans hfiles, hfault'⟩

/-- A failure stops the run: what would follow it never runs. -/
theorem fail_bind (f : Fault) (k : α → Run β) : (Cli.fail f >>= k).Tidy :=
  fun _ => ⟨rfl, by simp [go_bind]⟩

theorem ite {p : Prop} [Decidable p] {x y : Run α} (hx : x.Tidy) (hy : y.Tidy) :
    (if p then x else y).Tidy := by
  split
  · exact hx
  · exact hy

theorem forIn {γ δ : Type} (l : List γ) (b : δ) {f : γ → δ → Run (ForInStep δ)}
    (hf : ∀ a b, (f a b).Tidy) : (ForIn.forIn l b f).Tidy := by
  induction l generalizing b with
  | nil => exact pure b
  | cons a l ih =>
    rw [List.forIn_cons]
    refine bind (hf a b) fun step => ?_
    cases step with
    | done b' => exact pure b'
    | yield b' => exact ih b'

end Tidy

end Run

open Run

/-! ### The preparation of a build writes nothing -/

theorem loadSettings_tidy (flags : FlagSettings) : (loadSettings flags).Tidy := by
  unfold loadSettings
  refine Tidy.bind Tidy.currentFiles fun w => ?_
  dsimp only
  refine Tidy.ite (Tidy.orFail _) ?_
  split
  · exact Tidy.orFail _
  · exact Tidy.pure _

theorem sessionRequest_tidy (host : Host) (flags : FlagSettings) (cfg : Settings)
    (patterns refs : List String) : (sessionRequest host flags cfg patterns refs).Tidy := by
  unfold sessionRequest
  exact Tidy.bind Tidy.currentFiles fun w => Tidy.bind (Tidy.orFail _) fun inputs =>
    Tidy.bind (Tidy.orFail _) fun base => Tidy.pure _

theorem prepareSession_tidy (req : SessionRequest) : (prepareSession req).Tidy := by
  unfold prepareSession
  refine Tidy.bind Tidy.currentFiles fun w => ?_
  split
  exact Tidy.bind (Tidy.forIn _ _ fun f _ => Tidy.bind (Tidy.complain _) fun _ => Tidy.pure _)
    fun _ => Tidy.orFail _

theorem prepareBuild_tidy (host : Host) (r : Reading) : (prepareBuild host r).Tidy := by
  unfold prepareBuild
  dsimp only
  -- a check that fails stops the run at once: what it would go on to never runs
  refine Tidy.ite (Tidy.bind (Tidy.complain _) fun _ => Tidy.fail_bind _ _) ?_
  refine Tidy.bind (loadSettings_tidy _) fun cfg => Tidy.bind (Tidy.orFail _) fun inv =>
    Tidy.bind (sessionRequest_tidy _ _ _ _ _) fun req => Tidy.ite (Tidy.fail_bind _ _) ?_
  refine Tidy.ite (Tidy.fail_bind _ _) ?_
  exact Tidy.bind (prepareSession_tidy _) fun sess => Tidy.pure _

/-- The note on dropped findings only adds to the error stream. -/
@[simp] theorem go_reportDropped (s : Session) (c : Console) :
    (reportDropped s).go c = (.ok (), { c with err := c.err ++ (if s.findings.dropped > 0 then
      findingLine ⟨Code.unknown, .note, toString s.findings.dropped ++ " more warnings not shown"⟩
      else "") }) := by
  unfold reportDropped
  split <;> simp

/-! ### Only the assembler's run sees how started programs behave -/

section Relaunch

variable (host : Host) (L : String → List String → Workspace → Nat × String × String)

@[simp] theorem relaunch_launch : (host.relaunch L).launch = L := rfl

@[simp] theorem relaunch_printError : (host.relaunch L).printError = host.printError := rfl

@[simp] theorem startPath_relaunch : startPath (host.relaunch L) = startPath host := rfl

@[simp] theorem prepareBuild_relaunch : prepareBuild (host.relaunch L) = prepareBuild host := rfl

@[simp] theorem stageProgram_relaunch : stageProgram (host.relaunch L) = stageProgram host := rfl

@[simp] theorem afterAssembler_relaunch :
    afterAssembler (host.relaunch L) = afterAssembler host := rfl

end Relaunch

/-! ### Removing the program -/

/-- What removing the file at `path` from `w` gives: the file system's refusal, if it refuses,
and the files left.  A missing file needs no removal. -/
def removalOf (host : Host) (w : Workspace) (path : String) : Option Fault × Workspace :=
  if w.isFile path then
    (host.removeError path).elim (none, w.remove path) fun e =>
      (some (systemFault "remove" path e), w)
  else (none, w)

theorem removeFile_go (host : Host) (path : String) (c : Console) :
    (removeFile host path).go c =
      (.ok (removalOf host c.files path).1, { c with files := (removalOf host c.files path).2 }) := by
  unfold removeFile removalOf
  simp only [go_bind, go_currentFiles]
  by_cases hfile : c.files.isFile path = true
  · cases host.removeError path <;> simp [hfile, go_map, Except.map]
  · simp [hfile]

/-- A removal that reports no refusal leaves no file at the path. -/
theorem isFile_removalOf (host : Host) (w : Workspace) (path : String)
    (h : (removalOf host w path).1 = none) : (removalOf host w path).2.isFile path = false := by
  unfold removalOf at h ⊢
  by_cases hfile : w.isFile path = true
  · cases herr : host.removeError path with
    | none => simpa [hfile, herr] using Workspace.isFile_remove_self w path
    | some e => simp [hfile, herr] at h
  · simp [hfile]

/-! ### Writing the program -/

/-- The ways a step that writes the program to a new temporary file ends from `c`, with
`value path` its value when it goes on. -/
inductive WritesProgram (host : Host) (c : Console) {α : Type} (value : String → α) :
    Except Halt α × Console → Prop
  /-- Stopped by a fault before the file was created: nothing changed. -/
  | unwritten (f : Fault) : WritesProgram host c value (.error (.fault f), c)
  /-- The file was created, but writing or closing it failed: the run stops with that failure,
  and the file is removed unless the file system refuses. -/
  | unwritable (dir : String) (bytes : List UInt8) (w : Workspace) (path : String)
      (hcreate : c.files.writeTemp dir "exportgen-" ".il" bytes = .ok (w, path))
      (cause : Fault) (hcause : programWriteFault host path = some cause) :
      WritesProgram host c value
        (.error (.fault (.wrap Code.writeFailed cause ("failed to write " ++ path))),
          { c with files := (removalOf host w path).2 })
  /-- The program was written and closed as the file `path`. -/
  | written (dir : String) (bytes : List UInt8) (w : Workspace) (path : String)
      (hcreate : c.files.writeTemp dir "exportgen-" ".il" bytes = .ok (w, path))
      (hwritten : programWriteFault host path = none) :
      WritesProgram host c value (.ok (value path), { c with files := w })

theorem writeProgram_go (host : Host) (dir text : String) (c : Console) :
    WritesProgram host c id ((writeProgram host dir text).go c) := by
  unfold writeProgram
  simp only [go_bind, go_currentFiles, go_orFail]
  generalize (if (host.writeError (c.files.tempName dir "exportgen-" ".il")).isSome then []
    else Text.toBytes text) = bytes
  rcases hcreate : c.files.writeTemp dir "exportgen-" ".il" bytes with f | ⟨w, path⟩
  · exact .unwritten _
  · -- the path written to is the temporary name the directory gave
    have hpath : c.files.tempName dir "exportgen-" ".il" = path :=
      (Workspace.writeTemp_eq_ok hcreate).1.symm
    simp only [mapError_except_ok, go_setFiles, hpath]
    cases hcause : programWriteFault host path with
    | none => exact .written dir bytes w path hcreate hcause
    | some cause =>
      simp only [go_bind, removeFile_go, go_fail]
      exact .unwritable dir bytes w path hcreate cause hcause

/-- Staging fails with a fault before the program's file is created, or ends as writing it
does, with the assembler beside the path. -/
theorem stageProgram_go (host : Host) (flags : FlagSettings) (cfg : Settings) (output : String)
    (sess : Session) (c : Console) :
    ∃ asm, WritesProgram host c (asm, ·) ((stageProgram host flags cfg output sess).go c) := by
  unfold stageProgram
  simp only [go_bind, go_orFail, go_currentFiles]
  cases (sess.emit output).1 with
  | error f => exact ⟨"", .unwritten f⟩
  | ok text =>
    simp only [mapError_except_ok]
    cases AssemblerSearch.resolve ⟨cfg.assemblerLines, "", lookPath host c.files⟩
        sess.requirement with
    | error f => exact ⟨"", .unwritten f⟩
    | ok asm =>
      refine ⟨asm, ?_⟩
      simp only [mapError_except_ok]
      -- the staging's value is the writing's, paired with the assembler
      have hwrite := writeProgram_go host (if flags.text "temp-dir" == "" then host.tempDir
        else flags.text "temp-dir") text c
      generalize (writeProgram host _ text).go c = s at hwrite ⊢
      cases hwrite with
      | unwritten f => exact .unwritten f
      | unwritable dir bytes w path hcreate cause hcause =>
        exact .unwritable dir bytes w path hcreate cause hcause
      | written dir bytes w path hcreate hwritten =>
        exact .written dir bytes w path hcreate hwritten

/-! ### Starting the assembler -/

/-- A program is only started from a file. -/
theorem isFile_of_startPath {host : Host} {w : Workspace} {name path : String}
    (h : startPath host w name = .ok path) : w.isFile path = true := by
  simp only [startPath] at h
  -- whichever way the path was found, both checks then passed on it
  split at h <;>
  · obtain ⟨p, -, hchecks⟩ := except_bind_eq_ok h
    split at hchecks
    · simp at hchecks
    · split at hchecks
      · simp at hchecks
      · rename_i hstart
        cases hchecks
        simp only [Bool.not_eq_true', Bool.not_eq_false, Bool.and_eq_true] at hstart
        exact hstart.1

/-- The command line a program is started with is echoed first, when it is and the output
stream takes it. -/
theorem runProgram_echo (host : Host) (echo : Bool) (name : String) (args : List String)
    (c : Console) (hprint : host.printError = none) :
    (runProgram host echo name args).go c = (runProgram host false name args).go
      (if echo then { c with out := c.out ++ (name ++ " " ++ String.intercalate " " args ++ "\n") }
        else c) := by
  cases echo
  · rfl
  · simp only [runProgram, hprint, if_true, go_bind, go_say, Bool.false_eq_true, if_false]

/-- A program's command line is echoed, when it is, and a failure of the output stream stops
the run; otherwise the program either cannot be started, and then the run is the same whatever
programs do, or it is started from a file and its exit status is the step's value.  No file
changes. -/
theorem runProgram_go (host : Host) (echo : Bool) (name : String) (args : List String)
    (c : Console) :
    (∃ e, echo = true ∧ host.printError = some e ∧ ∀ L,
        (runProgram (host.relaunch L) echo name args).go c =
          (.error (.fault (.wrap Code.writeFailed (systemFault "write" outputStreamPath e)
            "failed to print command")), c)) ∨
      (∃ cause c', c'.files = c.files ∧ ∀ L, (runProgram (host.relaunch L) echo name args).go c =
        (.error (.fault (.wrap Code.assemblerStartFailed cause ("failed to run " ++ name))), c')) ∨
      ∃ path, c.files.isFile path ∧ ∀ L,
        ((runProgram (host.relaunch L) echo name args).go c).1 = .ok (L path args c.files).1 ∧
          ((runProgram (host.relaunch L) echo name args).go c).2.files = c.files := by
  cases hprint : host.printError with
  | some e =>
    cases echo
    · right
      simp only [runProgram, go_bind, Bool.false_eq_true, if_false, go_currentFiles, go_orFail,
        startPath_relaunch, relaunch_launch]
      rcases hstart : startPath host c.files name with f | path
      · exact .inl ⟨f, c, rfl, fun L => rfl⟩
      · exact .inr ⟨path, isFile_of_startPath hstart, fun L => ⟨rfl, rfl⟩⟩
    · exact .inl ⟨e, rfl, rfl, fun L => by simp [runProgram, hprint, go_bind]⟩
  | none =>
    right
    have hecho := fun L => runProgram_echo (host.relaunch L) echo name args c (by simpa using hprint)
    simp only [hecho]
    generalize hc₁ : (if echo then _ else c) = c₁
    have hfiles : c₁.files = c.files := by
      subst hc₁
      split <;> rfl
    simp only [runProgram, go_bind, Bool.false_eq_true, if_false, go_currentFiles, go_orFail,
      startPath_relaunch, relaunch_launch]
    rw [hfiles]
    rcases hstart : startPath host c.files name with f | path
    · exact .inl ⟨f, c₁, hfiles, fun L => rfl⟩
    · refine .inr ⟨path, isFile_of_startPath hstart, fun L => ⟨rfl, ?_⟩⟩
      simpa using hfiles

/-! ### Removing the program after the assembler -/

theorem afterAssembler_go (host : Host) (path : String) (ran : Except Halt Nat) (c : Console) :
    (afterAssembler host false path ran).go c =
      (.ok (removalEnd path (removalOf host c.files path).1 ran),
        { c with files := (removalOf host c.files path).2 }) := by
  simp only [afterAssembler, Bool.false_eq_true, if_false, go_bind, removeFile_go, go_pure]

/-- A refusal to remove the program replaces an end without a fault; an end with one stays. -/
theorem removalEnd_ok (path : String) (refusal : Option Fault) (n : Nat) :
    removalEnd path refusal (.ok n) = refusal.elim (.ok n) fun cause =>
      .error (.fault (.wrap Code.writeFailed cause ("failed to remove " ++ path))) := by
  cases refusal <;> rfl

theorem removalEnd_error (path : String) (refusal : Option Fault) (h : Halt) :
    removalEnd path refusal (.error h) = .error h := by
  cases refusal <;> rfl

/-! ### A build without keeping the program -/

/-- How the assembler's exit status ends a build: success for 0, and that status otherwise. -/
def exitResult (n : Nat) : Except Halt Unit := if n = 0 then .ok () else .error (.status n)

/-- The ways a build that does not keep its program ends from console `c`, each whatever
started programs do (`L` ranges over every behaviour, the host's own among them). -/
inductive CleanBuild (host : Host) (r : Reading) (c : Console) : Prop
  /-- Stopped by a fault before a program file was created: the files are as they were. -/
  | unwritten (f : Fault) (c' : Console) (hfiles : c'.files = c.files)
      (hrun : ∀ L, (runBuild (host.relaunch L) r).go c = (.error (.fault f), c'))
  /-- The program file was created, but writing or closing it failed: the build stops with
  that failure, and the file is removed unless the file system refuses. -/
  | unwritable (dir : String) (bytes : List UInt8) (w : Workspace) (path : String)
      (hcreate : c.files.writeTemp dir "exportgen-" ".il" bytes = .ok (w, path))
      (cause : Fault) (hcause : programWriteFault host path = some cause) (c' : Console)
      (hfiles : c'.files = (removalOf host w path).2)
      (hrun : ∀ L, (runBuild (host.relaunch L) r).go c =
        (.error (.fault (.wrap Code.writeFailed cause ("failed to write " ++ path))), c'))
  /-- The program was written, but echoing the assembler's command line failed: the build
  stops with that failure before the assembler runs, and the program is removed unless the
  file system refuses. -/
  | unprinted (dir : String) (bytes : List UInt8) (w : Workspace) (path : String)
      (hcreate : c.files.writeTemp dir "exportgen-" ".il" bytes = .ok (w, path))
      (hwritten : programWriteFault host path = none)
      (hecho : r.settings.switch "print-commands" = true) (e : String)
      (hprint : host.printError = some e) (c' : Console)
      (hfiles : c'.files = (removalOf host w path).2)
      (hrun : ∀ L, (runBuild (host.relaunch L) r).go c =
        (.error (.fault (.wrap Code.writeFailed (systemFault "write" outputStreamPath e)
          "failed to print command")), c'))
  /-- The program was written, but the assembler could not be started: the build stops with
  that failure, and the program is removed unless the file system refuses. -/
  | unstarted (dir : String) (bytes : List UInt8) (w : Workspace) (path : String)
      (hcreate : c.files.writeTemp dir "exportgen-" ".il" bytes = .ok (w, path))
      (hwritten : programWriteFault host path = none) (cause : Fault) (asm : String)
      (c' : Console) (hfiles : c'.files = (removalOf host w path).2)
      (hrun : ∀ L, (runBuild (host.relaunch L) r).go c =
        (.error (.fault (.wrap Code.assemblerStartFailed cause ("failed to run " ++ asm))), c'))
  /-- The assembler ran once, on the written program as its last argument, and the program is
  then removed.  A refusal to remove it ends the build with that failure, else the assembler's
  exit status ends it; a build that ends without a fault leaves no program behind. -/
  | assembled (dir : String) (bytes : List UInt8) (w : Workspace) (path : String)
      (hcreate : c.files.writeTemp dir "exportgen-" ".il" bytes = .ok (w, path))
      (hwritten : programWriteFault host path = none) (start : String) (args : List String)
      (hlast : args.getLast? = some path) (hfile : w.isFile path)
      (hrun : ∀ L, ((runBuild (host.relaunch L) r).go c).1 =
          (removalOf host w path).1.elim (exitResult (L start args w).1) (fun cause =>
            .error (.fault (.wrap Code.writeFailed cause ("failed to remove " ++ path)))) ∧
        ((runBuild (host.relaunch L) r).go c).2.files = (removalOf host w path).2)
      (hgone : ∀ L, (∀ f, ((runBuild (host.relaunch L) r).go c).1 ≠ .error (.fault f)) →
        ((runBuild (host.relaunch L) r).go c).2.files.isFile path = false)

/-- Without keeping its program, a build starts no program unless the program was written,
and it removes the program whatever the assembler does. -/
theorem build_removes_program (host : Host) (r : Reading) (c : Console)
    (hkeep : r.settings.switch "keep-il" = false) : CleanBuild host r c := by
  obtain ⟨hfiles₁, hfault₁⟩ := prepareBuild_tidy host r c
  rcases hprep : (prepareBuild host r).go c with ⟨_ | ⟨cfg, inv, sess⟩, c₁⟩
  · -- the preparation failed
    rw [hprep] at hfiles₁ hfault₁
    obtain ⟨f, rfl⟩ := hfault₁ _ rfl
    refine .unwritten f c₁ hfiles₁ fun L => ?_
    simp only [runBuild, go_bind, prepareBuild_relaunch, hprep]
  · rw [hprep] at hfiles₁
    obtain ⟨asm, hstage⟩ := stageProgram_go host r.settings cfg inv.output sess c₁
    generalize hs : (stageProgram host r.settings cfg inv.output sess).go c₁ = s at hstage
    cases hstage with
    | unwritten f =>
      -- no program file was created
      refine .unwritten f ((reportDropped sess).go c₁).2 (by simpa using hfiles₁) fun L => ?_
      simp only [runBuild, go_bind, prepareBuild_relaunch, stageProgram_relaunch, hprep,
        go_attempt, hs, go_reportDropped, go_throw]
    | unwritable dir bytes w path hcreate cause hcause =>
      rw [hfiles₁] at hcreate
      refine .unwritable dir bytes w path hcreate cause hcause
        ((reportDropped sess).go { c₁ with files := (removalOf host w path).2 }).2 (by simp)
        fun L => ?_
      simp only [runBuild, go_bind, prepareBuild_relaunch, stageProgram_relaunch, hprep,
        go_attempt, hs, go_reportDropped, go_throw]
    | written dir bytes w path hcreate hwritten =>
      rw [hfiles₁] at hcreate
      have hfile := Workspace.writeTemp_isFile hcreate
      rcases runProgram_go host (r.settings.switch "print-commands") asm
          (inv.assemblerArgs ++ ["/OUTPUT=" ++ inv.output, path]) { c₁ with files := w } with
        ⟨e, hecho, hprint, hrun⟩ | ⟨cause, c₂, hfiles₂, hrun⟩ | ⟨start, -, hrun⟩
      · -- the command line could not be echoed
        refine .unprinted dir bytes w path hcreate hwritten hecho e hprint
          ((reportDropped sess).go { c₁ with files := (removalOf host w path).2 }).2 (by simp)
          fun L => ?_
        simp only [runBuild, go_bind, prepareBuild_relaunch, stageProgram_relaunch, hprep,
          go_attempt, hs, hrun, hkeep, afterAssembler_relaunch, afterAssembler_go,
          removalEnd_error, Bool.false_eq_true, if_false, go_reportDropped, go_throw]
      · -- the assembler could not be started
        refine .unstarted dir bytes w path hcreate hwritten cause asm
          ((reportDropped sess).go { c₂ with files := (removalOf host w path).2 }).2 (by simp)
          fun L => ?_
        simp only [runBuild, go_bind, prepareBuild_relaunch, stageProgram_relaunch, hprep,
          go_attempt, hs, hrun, hkeep, afterAssembler_relaunch, afterAssembler_go, hfiles₂,
          removalEnd_error, Bool.false_eq_true, if_false, go_reportDropped, go_throw]
      · -- the assembler ran on the program: the removal, then its status, ends the build
        let args := inv.assemblerArgs ++ ["/OUTPUT=" ++ inv.output, path]
        have hend : ∀ L, ((runBuild (host.relaunch L) r).go c).1 =
              (removalOf host w path).1.elim (exitResult (L start args w).1) (fun cause =>
                .error (.fault (.wrap Code.writeFailed cause ("failed to remove " ++ path)))) ∧
            ((runBuild (host.relaunch L) r).go c).2.files = (removalOf host w path).2 := by
          intro L
          obtain ⟨hran, hfilesRan⟩ := hrun L
          simp only [runBuild, go_bind, prepareBuild_relaunch, stageProgram_relaunch, hprep,
            go_attempt, hs, hran, hkeep, afterAssembler_relaunch, afterAssembler_go, hfilesRan,
            removalEnd_ok, Bool.false_eq_true, if_false, go_reportDropped]
          -- a refusal stops the build; else a status of 0 is success and any other stops it
          generalize (L start args w).1 = n
          cases (removalOf host w path).1 <;> cases n <;> simp [exitResult]
        refine .assembled dir bytes w path hcreate hwritten start args (by simp [args]) hfile hend
          fun L hnil => ?_
        obtain ⟨hres, hfilesEnd⟩ := hend L
        rw [hfilesEnd]
        -- an end without a fault means the removal was not refused
        refine isFile_removalOf host w path ?_
        cases hrefusal : (removalOf host w path).1 with
        | none => rfl
        | some cause =>
          rw [hrefusal] at hres
          exact absurd hres (hnil _)

/-- A build of one module with the program not kept, on a host with one assembler that
always succeeds and a file system and output stream that never fail. -/
theorem one_module_build_cleans :
    FlagSettings.switch [("keep-il", .switch false)] "keep-il" = false ∧
      CleanBuild ⟨["bin"], "tmp", none, fun _ => true, fun _ _ _ => (0, "", ""), fun _ => none,
          fun _ => none, fun _ => none, none⟩
        ⟨[("keep-il", .switch false)], ["a.dll", "/OUT:a.exports.dll"], none, []⟩
        ⟨"", "", Workspace.empty, false⟩ :=
  ⟨rfl, build_removes_program _ _ _ rfl⟩

end Cli

end NativeExports

import Mathlib
import NativeExports.Cli.Invocation
import NativeExports.Proofs.ExceptSteps
/-!
Purpose: how an assembler-style command line is split into inputs, the output, references and
options passed on to the assembler.

An option is spelled as a slash, a name of ASCII letters, and optionally a colon or an equals
sign with the value after it (`SlashOption.Spells`); `SlashOption.read?` recognises exactly these
spellings (`SlashOption.read?_eq_some_iff`).  Each argument then has a role (`roleAt`): an
input, the output file, a reference, an option to pass on, or an output or reference option that
lacks its file.  From the dash on, every argument is an input.

Splitting is a fold over the arguments.  The step lemma (`readStep_eq`) says what one argument
does to the command line read so far, by its role; the run lemma (`foldlM_apply`) says what a
list of arguments does: it fails at the first argument that lacks its file, and otherwise
appends inputs, references and passed-on options in order and keeps the last output.

Main result: `invocation_splits_arguments`.
-/

namespace NativeExports.Cli

/-! ### Spelling of options -/

/-- How an option is spelled: a slash, its name of one or more ASCII letters, and, when it has a
value, a colon or an equals sign followed by the value. -/
def SlashOption.Spells (o : SlashOption) (arg : String) : Prop :=
  o.name.toList ≠ [] ∧ (∀ c ∈ o.name.toList, c.isAlpha) ∧
    match o.value with
    | none => arg.toList = '/' :: o.name.toList
    | some v => ∃ sep, (sep = ':' ∨ sep = '=') ∧ arg.toList = '/' :: (o.name.toList ++ sep :: v.toList)

/-- The letter test of option names is `Char.isAlpha`. -/
theorem letter_eq_isAlpha (c : Char) : (('a' ≤ c && c ≤ 'z') || ('A' ≤ c && c ≤ 'Z')) = c.isAlpha := by
  -- a letter is in the upper-case range or the lower-case one, each a pair of bounds on its code
  change _ = (decide (c.val ≥ 'A'.val ∧ c.val ≤ 'Z'.val) ||
    (decide (c.val ≥ 'a'.val) && decide (c.val ≤ 'z'.val)))
  simp only [Char.le_def, ge_iff_le, Bool.decide_and]
  rw [Bool.or_comm]

/-- A letter is neither of the separators between an option's name and its value. -/
theorem notSeparator_of_isAlpha {c : Char} (h : c.isAlpha) : (c != ':' && c != '=') = true := by
  rcases (show c = ':' ∨ c = '=' ∨ (c ≠ ':' ∧ c ≠ '=') by grind) with rfl | rfl | ⟨hcolon, hequals⟩
  · simp at h
  · simp at h
  · simp [hcolon, hequals]

/-- An argument read as an option spells it. -/
theorem SlashOption.spells_of_read? {arg : String} {o : SlashOption}
    (h : SlashOption.read? arg = some o) : o.Spells arg := by
  unfold SlashOption.read? at h
  split at h
  · rename_i b body hbody
    have hsplit := List.takeWhile_append_dropWhile (p := fun c => c != ':' && c != '=') (l := b :: body)
    dsimp only at h
    split at h
    · rename_i hcond
      obtain rfl := (Option.some.inj h).symm
      simp only [Bool.and_eq_true, Bool.not_eq_true', List.isEmpty_eq_false_iff, List.all_eq_true,
        letter_eq_isAlpha] at hcond
      refine ⟨by simpa using hcond.1, by simpa using hcond.2, ?_⟩
      -- the name runs up to the first separator, if there is one, and the value follows it
      cases hrest : List.dropWhile (fun c => c != ':' && c != '=') (b :: body) with
      | nil =>
        rw [hrest, List.append_nil] at hsplit
        simp only [String.toList_ofList]
        rw [hbody, hsplit]
      | cons s v =>
        have hsep := List.head_dropWhile_not (fun c => c != ':' && c != '=') (l := b :: body)
          (by simp [hrest])
        simp only [hrest, List.head_cons, Bool.and_eq_false_iff, bne_eq_false_iff_eq] at hsep
        rw [hrest] at hsplit
        refine ⟨s, hsep, ?_⟩
        simp only [String.toList_ofList]
        rw [hbody, hsplit]
    · cases h
  · cases h

/-- Reading up to the first separator takes exactly a name of letters, when what follows the name
is empty or starts with a separator. -/
theorem takeWhile_dropWhile_name {name rest : List Char} (hletters : ∀ c ∈ name, c.isAlpha)
    (hstop : ∀ s ∈ rest.head?, s = ':' ∨ s = '=') :
    (name ++ rest).takeWhile (fun c => c != ':' && c != '=') = name ∧
      (name ++ rest).dropWhile (fun c => c != ':' && c != '=') = rest := by
  have hpass : ∀ c ∈ name, (c != ':' && c != '=') = true :=
    fun c hc => notSeparator_of_isAlpha (hletters c hc)
  rw [List.takeWhile_append_of_pos hpass, List.dropWhile_append_of_pos hpass]
  cases rest with
  | nil => simp
  | cons s r =>
    have hsep : (s != ':' && s != '=') = false := by
      rcases hstop s rfl with rfl | rfl <;> rfl
    rw [List.takeWhile_cons_of_neg (by simp [hsep]), List.dropWhile_cons_of_neg (by simp [hsep])]
    simp

/-- An option is read from every argument that spells it. -/
theorem SlashOption.read?_of_spells {arg : String} {o : SlashOption} (h : o.Spells arg) :
    SlashOption.read? arg = some o := by
  obtain ⟨hname, hletters, hvalue⟩ := h
  have hall : (o.name.toList.all fun c =>
      ('a' ≤ c && c ≤ 'z') || ('A' ≤ c && c ≤ 'Z')) = true := by
    simpa [List.all_eq_true, letter_eq_isAlpha] using hletters
  -- after the name comes nothing, or a separator and the value
  obtain ⟨rest, hspelled, hstop, hrest⟩ : ∃ rest, arg.toList = '/' :: (o.name.toList ++ rest) ∧
      (∀ s ∈ rest.head?, s = ':' ∨ s = '=') ∧ rest.tail?.map String.ofList = o.value := by
    cases hv : o.value with
    | none =>
      rw [hv] at hvalue
      exact ⟨[], by simpa using hvalue, by simp, rfl⟩
    | some v =>
      rw [hv] at hvalue
      obtain ⟨sep, hsep, hspelled⟩ := hvalue
      exact ⟨sep :: v.toList, hspelled, by simpa using hsep, by simp⟩
  obtain ⟨n, ns, hn⟩ := List.exists_cons_of_ne_nil hname
  obtain ⟨htake, hdrop⟩ := takeWhile_dropWhile_name hletters hstop
  rw [hn, List.cons_append] at htake hdrop
  unfold SlashOption.read?
  rw [hspelled, hn, List.cons_append]
  simp only [htake, hdrop]
  rw [← hn]
  simp only [hall, List.isEmpty_eq_false_iff.2 hname, Bool.not_false, Bool.and_self,
    if_true, String.ofList_toList, Option.some.injEq]
  cases o
  cases rest <;> simpa using hrest

/-- An argument is read as an option exactly when it spells it. -/
theorem SlashOption.read?_eq_some_iff (arg : String) (o : SlashOption) :
    SlashOption.read? arg = some o ↔ o.Spells arg :=
  ⟨SlashOption.spells_of_read?, SlashOption.read?_of_spells⟩


/-! ### Roles of arguments -/

/-- What an argument is to a command line. -/
inductive Role where
  | input
  | output (file : String)
  | reference (file : String)
  /-- An option passed on to the assembler. -/
  | forward
  /-- An output or reference option without a file; `sketch` shows how to give one. -/
  | lacksFile (sketch : String)
  deriving DecidableEq

/-- The role the value of an output or reference option gives it: its file when the value is
there and not empty. -/
def Role.ofValue (role : String → Role) (sketch : String) : Option String → Role
  | some v => if v.isEmpty then .lacksFile sketch else role v
  | none => .lacksFile sketch

/-- The role of an argument before the dash: an input unless it is an option; an option selecting
the output or a reference names a file; any other option is passed on. -/
def argumentRole (arg : String) : Role :=
  match SlashOption.read? arg with
  | none => .input
  | some o =>
    if SlashOption.selects o.name "OUTPUT" then .ofValue .output "/OUT:<file>" o.value
    else if SlashOption.selects o.name "REFERENCE" then .ofValue .reference "/REF:<file>" o.value
    else .forward

/-- The role of the argument at position `i`: from the dash on, every argument is an input. -/
def roleAt (dashAt : Option Nat) (i : Nat) (arg : String) : Role :=
  if dashAt.any (· ≤ i) then .input else argumentRole arg

/-- The file an output option names. -/
def Role.output? : Role → Option String
  | .output f => some f
  | _ => none

/-- The file a reference option names. -/
def Role.reference? : Role → Option String
  | .reference f => some f
  | _ => none

/-- How to give the file an option lacks. -/
def Role.sketch? : Role → Option String
  | .lacksFile s => some s
  | _ => none

/-- The fault for an option that lacks its file. -/
def lacksFileFault (arg sketch : String) : Fault :=
  .error Code.badOption (arg ++ " needs a file name (" ++ sketch ++ ")")

/-- A command line read so far, extended by arguments with their roles: inputs, references and
passed-on options are appended in order, and the last output option, if any, sets the output. -/
def Invocation.extend (inv : Invocation) (roles : List (String × Role)) : Invocation :=
  ⟨inv.inputs ++ (roles.filter (·.2 == .input)).map (·.1),
    ((roles.filterMap (·.2.output?)).getLast?).getD inv.output,
    inv.refs ++ roles.filterMap (·.2.reference?),
    inv.forward ++ (roles.filter (·.2 == .forward)).map (·.1)⟩

/-- The first argument that lacks its file, with how to give it. -/
def firstLacking (roles : List (String × Role)) : Option (String × String) :=
  roles.findSome? fun (arg, r) => r.sketch?.map (arg, ·)

/-! ### The step and run lemmas -/

/-- One step of splitting a command line, as the splitter takes it. -/
def readStep (dashAt : Option Nat) (inv : Invocation) : String × Nat → Except Fault Invocation :=
  fun (arg, i) =>
    if dashAt.any (· ≤ i) then pure { inv with inputs := inv.inputs ++ [arg] }
    else match SlashOption.read? arg with
      | none => pure { inv with inputs := inv.inputs ++ [arg] }
      | some o =>
        let needsValue (sketch : String) : Except Fault String :=
          match o.value with
          | some v => if v.isEmpty then .error (.error Code.badOption
              (arg ++ " needs a file name (" ++ sketch ++ ")")) else .ok v
          | none => .error (.error Code.badOption (arg ++ " needs a file name (" ++ sketch ++ ")"))
        if SlashOption.selects o.name "OUTPUT" then do
          pure { inv with output := ← needsValue "/OUT:<file>" }
        else if SlashOption.selects o.name "REFERENCE" then do
          pure { inv with refs := inv.refs ++ [← needsValue "/REF:<file>"] }
        else pure { inv with forward := inv.forward ++ [arg] }

/-- Splitting a command line folds `readStep` over the arguments and their positions. -/
theorem read_eq_foldlM (args : List String) (dashAt : Option Nat) :
    Invocation.read args dashAt = args.zipIdx.foldlM (readStep dashAt) ⟨[], "", [], []⟩ := rfl

/-- What an argument of a role does to the command line read so far. -/
def Role.apply (arg : String) (inv : Invocation) : Role → Except Fault Invocation
  | .input => .ok { inv with inputs := inv.inputs ++ [arg] }
  | .output f => .ok { inv with output := f }
  | .reference f => .ok { inv with refs := inv.refs ++ [f] }
  | .forward => .ok { inv with forward := inv.forward ++ [arg] }
  | .lacksFile sketch => .error (lacksFileFault arg sketch)

/-- The step lemma: one argument acts on the command line by its role. -/
theorem readStep_eq (dashAt : Option Nat) (inv : Invocation) (arg : String) (i : Nat) :
    readStep dashAt inv (arg, i) = (roleAt dashAt i arg).apply arg inv := by
  dsimp only [readStep, roleAt]
  split
  · rfl
  · unfold argumentRole
    cases SlashOption.read? arg with
    | none => rfl
    | some o =>
      dsimp only
      -- an output or reference option takes its file from its value, when that is not empty
      cases o.value with
      | none =>
        split
        · rfl
        · split <;> rfl
      | some v =>
        by_cases hempty : v.isEmpty
        · split
          · simp [Role.ofValue, Role.apply, hempty, lacksFileFault]
          · split
            · simp [Role.ofValue, Role.apply, hempty, lacksFileFault]
            · rfl
        · split
          · simp [Role.ofValue, Role.apply, hempty]
          · split
            · simp [Role.ofValue, Role.apply, hempty]
            · rfl

/-- An argument that does not lack its file leaves the search for one to the rest. -/
theorem firstLacking_cons {arg : String} {r : Role} (h : r.sketch? = none)
    (rest : List (String × Role)) : firstLacking ((arg, r) :: rest) = firstLacking rest := by
  simp [firstLacking, h]

/-! Extending a command line by one argument of each role. -/

@[simp] theorem extend_nil (inv : Invocation) : inv.extend [] = inv := by
  simp [Invocation.extend]

theorem extend_cons_input (inv : Invocation) (arg : String) (rest : List (String × Role)) :
    inv.extend ((arg, .input) :: rest) = { inv with inputs := inv.inputs ++ [arg] }.extend rest := by
  simp [Invocation.extend, Role.output?, Role.reference?]

theorem extend_cons_output (inv : Invocation) (arg f : String) (rest : List (String × Role)) :
    inv.extend ((arg, .output f) :: rest) = { inv with output := f }.extend rest := by
  simp [Invocation.extend, Role.output?, Role.reference?, List.getLast?_cons]

theorem extend_cons_reference (inv : Invocation) (arg f : String) (rest : List (String × Role)) :
    inv.extend ((arg, .reference f) :: rest) = { inv with refs := inv.refs ++ [f] }.extend rest := by
  simp [Invocation.extend, Role.output?, Role.reference?]

theorem extend_cons_forward (inv : Invocation) (arg : String) (rest : List (String × Role)) :
    inv.extend ((arg, .forward) :: rest) = { inv with forward := inv.forward ++ [arg] }.extend rest := by
  simp [Invocation.extend, Role.output?, Role.reference?]

/-- The run lemma: arguments with their roles fail at the first that lacks its file, and
otherwise extend the command line. -/
theorem foldlM_apply (roles : List (String × Role)) (inv : Invocation) :
    roles.foldlM (fun inv (arg, r) => r.apply arg inv) inv =
      match firstLacking roles with
      | some (arg, sketch) => .error (lacksFileFault arg sketch)
      | none => .ok (inv.extend roles) := by
  induction roles generalizing inv with
  | nil =>
    simp only [List.foldlM_nil, firstLacking, List.findSome?_nil, extend_nil]
    rfl
  | cons entry rest ih =>
    obtain ⟨arg, r⟩ := entry
    rw [List.foldlM_cons]
    cases r with
    | input =>
      rw [firstLacking_cons rfl, extend_cons_input]
      exact ih _
    | output f =>
      rw [firstLacking_cons rfl, extend_cons_output]
      exact ih _
    | reference f =>
      rw [firstLacking_cons rfl, extend_cons_reference]
      exact ih _
    | forward =>
      rw [firstLacking_cons rfl, extend_cons_forward]
      exact ih _
    | lacksFile sketch =>
      rfl

/-! ### The command line -/

/-- The arguments with their roles, in order. -/
def argumentRoles (args : List String) (dashAt : Option Nat) : List (String × Role) :=
  args.zipIdx.map fun (arg, i) => (arg, roleAt dashAt i arg)

/-- Splitting a command line is the run over its arguments' roles. -/
theorem read_eq_roles (args : List String) (dashAt : Option Nat) :
    Invocation.read args dashAt =
      match firstLacking (argumentRoles args dashAt) with
      | some (arg, sketch) => .error (lacksFileFault arg sketch)
      | none => .ok ((⟨[], "", [], []⟩ : Invocation).extend (argumentRoles args dashAt)) := by
  rw [← foldlM_apply, argumentRoles, List.foldlM_map, read_eq_foldlM]
  congr
  funext inv entry
  exact readStep_eq dashAt inv entry.1 entry.2

/-- The options passed to the assembler are the passed-on ones, after `/DLL` exactly when none of
them selects a module kind and the output's extension is `.dll` in any letter case. -/
theorem assemblerArgs_eq (inv : Invocation) :
    inv.assemblerArgs =
      (if (∀ a ∈ inv.forward, ∀ o, SlashOption.read? a = some o →
            SlashOption.selects o.name "DLL" = false ∧ SlashOption.selects o.name "EXE" = false) ∧
          (Path.ext inv.output).toLower = ".dll" then ["/DLL"] else []) ++ inv.forward := by
  unfold Invocation.assemblerArgs
  simp only [Bool.not_eq_true', Bool.and_eq_true, beq_iff_eq, List.any_eq_false, Bool.not_eq_true]
  congr 1
  -- an argument is an explicit choice of the module kind when, read as an option, it selects
  -- either kind
  refine ite_congr (propext (and_congr_left fun _ => forall₂_congr fun a _ => ?_)) (fun _ => rfl)
    (fun _ => rfl)
  cases SlashOption.read? a <;> simp

/-- Splitting an assembler-style command line.  An argument is an option exactly when it spells
one; the line fails at the first argument before the dash that selects the output or a reference
and lacks a non-empty value, and otherwise its arguments are partitioned in order by their roles:
inputs (every argument from the dash on, and every argument that is no option), the last output,
the references, and the other options, passed on to the assembler after `/DLL` exactly when none
of them selects a module kind and the output is a `.dll`. -/
theorem invocation_splits_arguments (args : List String) (dashAt : Option Nat) :
    (∀ arg o, SlashOption.read? arg = some o ↔ o.Spells arg) ∧
      Invocation.read args dashAt =
        (match firstLacking (argumentRoles args dashAt) with
        | some (arg, sketch) => .error (lacksFileFault arg sketch)
        | none => .ok ((⟨[], "", [], []⟩ : Invocation).extend (argumentRoles args dashAt))) ∧
      ∀ inv : Invocation, inv.assemblerArgs =
        (if (∀ a ∈ inv.forward, ∀ o, SlashOption.read? a = some o →
              SlashOption.selects o.name "DLL" = false ∧ SlashOption.selects o.name "EXE" = false) ∧
            (Path.ext inv.output).toLower = ".dll" then ["/DLL"] else []) ++ inv.forward :=
  ⟨SlashOption.read?_eq_some_iff, read_eq_roles args dashAt, assemblerArgs_eq⟩

end NativeExports.Cli

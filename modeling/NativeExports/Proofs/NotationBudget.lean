import Mathlib
import NativeExports.Signature.Notation
/-!
Purpose: reading a type's notation always ends on the text; the budget of steps the reader
carries never runs out first.

The reader is four functions that call one another (`readType`, `readCore`, `readNamed`,
`readArguments`) and a loop over suffixes (`readSuffixes`).  Each call that goes on reading
has read a character first, or is at most two calls from one that has: a written name is not
empty, a kind word, a scope and `native` each take characters, a generic argument is followed
by a comma before the next one, and each suffix is a character.  So two steps for each unread
character and two more are enough: at such a budget each function ends on the text
(`EndsOnText`) and a type or an argument list read takes at least one character
(`ReadsWithin`, one step lemma per function, by induction on the budget).  The reader of a whole
text is given twice that, so its answer is a type or a fault in the text, never one of budget.

Main result: `parse_never_exhausts`.
-/

namespace NativeExports

open Cursor

/-! ### Readings that end on the text -/

/-- A reading from cursor `c` that ends on the text: it fails for a reason in the text, not for
want of budget, or it gives a value and has read at least `n` characters. -/
def EndsOnText {α : Type} (n : Nat) (c : Cursor) : Except NotationError (α × Cursor) → Prop
  | .error e => e.issue ≠ .exhausted
  | .ok (_, c') => c'.rest.length + n ≤ c.rest.length

section EndsOnText

variable {α : Type} {n m : Nat} {c d : Cursor}

@[simp] theorem endsOnText_error {e : NotationError} :
    EndsOnText n c (.error e : Except NotationError (α × Cursor)) ↔ e.issue ≠ .exhausted :=
  Iff.rfl

@[simp] theorem endsOnText_ok {a : α} {c' : Cursor} :
    EndsOnText n c (.ok (a, c')) ↔ c'.rest.length + n ≤ c.rest.length :=
  Iff.rfl

@[simp] theorem NotationContext.fail_issue (cx : NotationContext) (c : Cursor)
    (issue : NotationIssue) : (cx.fail c issue).issue = issue :=
  rfl

/-- A reading that reads `n` characters from `c` reads `m` from `d` when `d` is at least `m - n`
characters further back. -/
theorem EndsOnText.mono {r : Except NotationError (α × Cursor)} (h : EndsOnText n c r)
    (hle : c.rest.length + m ≤ d.rest.length + n) : EndsOnText m d r := by
  rcases r with e | ⟨a, c'⟩
  · exact h
  · simp only [endsOnText_ok] at h ⊢
    omega

end EndsOnText

/-! ### How far the cursor moves -/

theorem length_skipBlanksFrom (off : Nat) (r : List Char) :
    (skipBlanksFrom off r).rest.length ≤ r.length := by
  fun_induction skipBlanksFrom off r with
  | case1 off r ih => simp only [List.length_cons]; omega
  | case2 off r ih => simp only [List.length_cons]; omega
  | case3 => exact le_rfl

/-- Blanks at the front are skipped, so a text that starts with one gets shorter. -/
theorem length_skipBlanksFrom_lt {off : Nat} {x : Char} {r : List Char} (hx : x = ' ' ∨ x = '\t') :
    (skipBlanksFrom off (x :: r)).rest.length < (x :: r).length := by
  rcases hx with rfl | rfl <;>
    simpa [skipBlanksFrom] using Nat.lt_succ_of_le (length_skipBlanksFrom _ r)

theorem length_skipBlanks (c : Cursor) : c.skipBlanks.rest.length ≤ c.rest.length :=
  length_skipBlanksFrom c.offset c.rest

theorem length_advance_of_peek {c : Cursor} {x : Char} (h : c.peek = some x) :
    c.advance.rest.length + 1 = c.rest.length := by
  rcases c with ⟨_ | ⟨y, r⟩, off⟩
  · cases h
  · simp [advance]

/-- A name takes as many characters as it has. -/
theorem length_readName (c : Cursor) :
    c.readName.2.rest.length + c.readName.1.length = c.rest.length := by
  have hsplit := congrArg List.length (List.takeWhile_append_dropWhile (p := isNameChar) (l := c.rest))
  simp only [List.length_append] at hsplit
  simp only [readName, String.length_ofList]
  omega

theorem length_readName_le (c : Cursor) : c.readName.2.rest.length ≤ c.rest.length := by
  have := length_readName c
  omega

theorem length_readName_lt {c : Cursor} (h : c.readName.1 ≠ "") :
    c.readName.2.rest.length < c.rest.length := by
  have hpos : c.readName.1.length ≠ 0 := fun hzero => h (String.length_eq_zero_iff.1 hzero)
  have := length_readName c
  omega

/-- A keyword is taken only with a blank after it, so taking it moves the cursor on. -/
theorem length_word?_lt {kw : String} {c c' : Cursor} (h : c.word? kw = some c') :
    c'.rest.length < c.rest.length := by
  unfold word? at h
  dsimp only at h
  obtain ⟨hcond, hsome⟩ := Option.ite_none_right_eq_some.1 h
  cases hsome
  obtain ⟨-, hblank⟩ := Bool.and_eq_true _ _ ▸ hcond
  have hdrop := List.length_drop (i := kw.toList.length) (l := c.rest)
  -- the text after the keyword starts with a blank
  cases hrest : c.rest.drop kw.toList.length with
  | nil => simp [hrest] at hblank
  | cons x r =>
    have hx : x = ' ' ∨ x = '\t' := by
      rw [hrest, List.head?_cons] at hblank
      split at hblank <;> simp_all
    rw [hrest] at hdrop
    have := @length_skipBlanksFrom_lt (c.offset + kw.utf8ByteSize) x r hx
    omega

/-! ### The suffix loop -/

/-- The suffix loop takes a character on each round, so a step for each unread character and
one more are enough. -/
theorem readSuffixes_within (cx : NotationContext) {fuel : Nat} {sig : TypeSig} {c0 : Cursor}
    (hfuel : c0.rest.length + 1 ≤ fuel) : EndsOnText 0 c0 (readSuffixes cx fuel sig c0) := by
  induction fuel generalizing sig c0 with
  | zero => omega
  | succ fuel ih =>
    have hblank := length_skipBlanks c0
    rw [readSuffixes]
    dsimp only
    split
    · -- brackets, with commas between them
      rename_i hopen
      have hopen := length_advance_of_peek hopen
      split
      · rename_i hclose
        have hclose := length_advance_of_peek hclose
        have hcommas := List.length_drop (i := (c0.skipBlanks.advance.rest.takeWhile (· = ',')).length)
          (l := c0.skipBlanks.advance.rest)
        simp only at hclose
        exact (ih (by omega)).mono (by omega)
      · simp
    · rename_i hstar
      have hstar := length_advance_of_peek hstar
      exact (ih (by omega)).mono (by omega)
    · rename_i hamp
      have hamp := length_advance_of_peek hamp
      exact (ih (by omega)).mono (by omega)
    · simpa using hblank

/-! ### The reader at a budget of two steps per character -/

/-- What each of the reader's functions does at a budget of two steps for each unread character
and two more (one fewer for `readCore`, which its caller reaches a step later, and one more for
`readArguments`, which starts past the angle bracket): it ends on the text, a type, a core or an
argument list read takes at least one character, and one step more changes nothing it gives. -/
structure ReadsWithin (cx : NotationContext) (fuel : Nat) : Prop where
  type : ∀ {c : Cursor}, 2 * c.rest.length + 2 ≤ fuel → EndsOnText 1 c (readType cx fuel c)
  type_succ : ∀ {c : Cursor}, 2 * c.rest.length + 2 ≤ fuel →
    readType cx (fuel + 1) c = readType cx fuel c
  core : ∀ {scope : Int32} {explicitScope kindGiven valueType : Bool} {c : Cursor},
    2 * c.rest.length + 1 ≤ fuel →
      EndsOnText 1 c (readCore cx fuel scope explicitScope kindGiven valueType c)
  core_succ : ∀ {scope : Int32} {explicitScope kindGiven valueType : Bool} {c : Cursor},
    2 * c.rest.length + 1 ≤ fuel →
      readCore cx (fuel + 1) scope explicitScope kindGiven valueType c =
        readCore cx fuel scope explicitScope kindGiven valueType c
  named : ∀ {scope : Int32} {valueType : Bool} {full : String} {c : Cursor},
    2 * c.rest.length + 2 ≤ fuel → EndsOnText 0 c (readNamed cx fuel scope valueType full c)
  named_succ : ∀ {scope : Int32} {valueType : Bool} {full : String} {c : Cursor},
    2 * c.rest.length + 2 ≤ fuel →
      readNamed cx (fuel + 1) scope valueType full c = readNamed cx fuel scope valueType full c
  arguments : ∀ {acc : List (Option TypeSig)} {c : Cursor},
    2 * c.rest.length + 3 ≤ fuel → EndsOnText 1 c (readArguments cx fuel acc c)
  arguments_succ : ∀ {acc : List (Option TypeSig)} {c : Cursor},
    2 * c.rest.length + 3 ≤ fuel → readArguments cx (fuel + 1) acc c = readArguments cx fuel acc c

variable {cx : NotationContext}

theorem readsWithin_zero : ReadsWithin cx 0 where
  type h := by omega
  type_succ h := by omega
  core h := by omega
  core_succ h := by omega
  named h := by omega
  named_succ h := by omega
  arguments h := by omega
  arguments_succ h := by omega

section Step

variable {fuel : Nat} (ih : ReadsWithin cx fuel)
include ih

/-- Handing over to `readCore` from no further back than `c0` ends on the text and reads a
character, whatever one more step of budget. -/
theorem ReadsWithin.handover {c0 c : Cursor} {scope : Int32}
    {explicitScope kindGiven valueType : Bool} (hc : c.rest.length ≤ c0.rest.length)
    (hfuel : 2 * c0.rest.length + 1 ≤ fuel) :
    EndsOnText 1 c0 (readCore cx fuel scope explicitScope kindGiven valueType c) ∧
      readCore cx (fuel + 1) scope explicitScope kindGiven valueType c =
        readCore cx fuel scope explicitScope kindGiven valueType c :=
  ⟨(ih.core (by omega)).mono (by omega), ih.core_succ (by omega)⟩

/-- A type starts with blanks and perhaps a kind word; then a scope in brackets, or `native` and
a word, or a name follows, each read from no further back than the start. -/
theorem readType_within {c0 : Cursor} (hfuel : 2 * c0.rest.length + 2 ≤ fuel + 1) :
    EndsOnText 1 c0 (readType cx (fuel + 1) c0) ∧
      readType cx (fuel + 1 + 1) c0 = readType cx (fuel + 1) c0 := by
  have hblank := length_skipBlanks c0
  rw [readType.eq_2 cx c0 (fuel + 1), readType.eq_2 cx c0 fuel]
  dsimp only
  -- the kind words: `valuetype`, `class` or none; each leaves the cursor no further back
  split
  rotate_left
  split
  on_goal 1 =>
    rename_i c hclass
    have hkind : ((true, false, c) : Bool × Bool × Cursor).2.2.rest.length ≤ c0.rest.length :=
      (length_word?_lt hclass).le.trans hblank
    revert hkind
  on_goal 2 =>
    have hkind : ((false, false, c0.skipBlanks) : Bool × Bool × Cursor).2.2.rest.length ≤
        c0.rest.length := hblank
    revert hkind
  on_goal 3 =>
    rename_i c hvaluetype
    have hkind : ((true, true, c) : Bool × Bool × Cursor).2.2.rest.length ≤ c0.rest.length :=
      (length_word?_lt hvaluetype).le.trans hblank
    revert hkind
  all_goals
    generalize ((_ : Bool), (_ : Bool), (_ : Cursor)) = k
    obtain ⟨kindGiven, valueType, c2⟩ := k
    intro hkind
    dsimp only at hkind ⊢
    split
    · -- a scope in brackets
      rename_i hopen
      have hopen := length_advance_of_peek hopen
      have hname := length_readName_le c2.advance
      split
      · exact ⟨by simp, rfl⟩
      · rename_i hclose
        have hclose := length_advance_of_peek (not_not.1 hclose)
        split
        · exact ⟨by simp, rfl⟩
        · exact ih.handover (by omega) (by omega)
    · split
      · -- no kind word: `native` and a word, or a name
        split
        · rename_i c3 hnative
          have hnative := length_word?_lt hnative
          have hword := length_readName_le c3
          split
          · exact ⟨by simp, rfl⟩
          · exact ⟨(readSuffixes_within cx le_rfl).mono (by omega), rfl⟩
        · exact ih.handover hkind (by omega)
      · exact ih.handover hkind (by omega)

/-- A core is a name, which is not empty, then a primitive's suffixes or a named type. -/
theorem readCore_within {scope : Int32} {explicitScope kindGiven valueType : Bool} {c : Cursor}
    (hfuel : 2 * c.rest.length + 1 ≤ fuel + 1) :
    EndsOnText 1 c (readCore cx (fuel + 1) scope explicitScope kindGiven valueType c) ∧
      readCore cx (fuel + 1 + 1) scope explicitScope kindGiven valueType c =
        readCore cx (fuel + 1) scope explicitScope kindGiven valueType c := by
  rw [readCore.eq_2, readCore.eq_2]
  dsimp only
  split
  · exact ⟨by simp, rfl⟩
  · rename_i hname
    -- the name is not empty, so it took a character
    have hname := length_readName_lt hname
    have hnamed : EndsOnText 1 c (readNamed cx fuel scope valueType c.readName.1 c.readName.2) ∧
        readNamed cx (fuel + 1) scope valueType c.readName.1 c.readName.2 =
          readNamed cx fuel scope valueType c.readName.1 c.readName.2 :=
      ⟨(ih.named (by omega)).mono (by omega), ih.named_succ (by omega)⟩
    split
    · split
      · exact ⟨(readSuffixes_within cx le_rfl).mono (by omega), rfl⟩
      · exact hnamed
    · exact hnamed

/-- A named type goes on with generic arguments after an angle bracket, then its suffixes. -/
theorem readNamed_within {scope : Int32} {valueType : Bool} {full : String} {c : Cursor}
    (hfuel : 2 * c.rest.length + 2 ≤ fuel + 1) :
    EndsOnText 0 c (readNamed cx (fuel + 1) scope valueType full c) ∧
      readNamed cx (fuel + 1 + 1) scope valueType full c =
        readNamed cx (fuel + 1) scope valueType full c := by
  rw [readNamed.eq_2, readNamed.eq_2]
  split
  · exact ⟨by simp, rfl⟩
  · dsimp only
    split
    · rename_i hopen
      have hopen := length_advance_of_peek hopen
      have hargs : EndsOnText 1 c.advance (readArguments cx fuel [] c.advance) :=
        ih.arguments (by omega)
      rw [ih.arguments_succ (by omega)]
      split
      · rename_i e he
        rw [he] at hargs
        exact ⟨hargs, rfl⟩
      · rename_i args c' he
        rw [he, endsOnText_ok] at hargs
        exact ⟨(readSuffixes_within cx le_rfl).mono (by omega), rfl⟩
    · exact ⟨readSuffixes_within cx le_rfl, rfl⟩

/-- An argument list is a type, then a comma and more arguments or the closing bracket. -/
theorem readArguments_within {acc : List (Option TypeSig)} {c : Cursor}
    (hfuel : 2 * c.rest.length + 3 ≤ fuel + 1) :
    EndsOnText 1 c (readArguments cx (fuel + 1) acc c) ∧
      readArguments cx (fuel + 1 + 1) acc c = readArguments cx (fuel + 1) acc c := by
  have htype := ih.type (c := c) (by omega)
  rw [readArguments.eq_2, readArguments.eq_2, ih.type_succ (by omega)]
  split
  · rename_i e he
    rw [he] at htype
    exact ⟨htype, rfl⟩
  · rename_i arg c1 he
    rw [he, endsOnText_ok] at htype
    have hblank := length_skipBlanks c1
    dsimp only
    split
    · -- a comma: the next argument, from past it
      rename_i hcomma
      have hcomma := length_advance_of_peek hcomma
      exact ⟨(ih.arguments (by omega)).mono (by omega), ih.arguments_succ (by omega)⟩
    · rename_i hclose
      have hclose := length_advance_of_peek hclose
      exact ⟨by simp only [endsOnText_ok]; omega, rfl⟩
    · exact ⟨by simp, rfl⟩

theorem readsWithin_succ : ReadsWithin cx (fuel + 1) where
  type h := (readType_within ih h).1
  type_succ h := (readType_within ih h).2
  core h := (readCore_within ih h).1
  core_succ h := (readCore_within ih h).2
  named h := (readNamed_within ih h).1
  named_succ h := (readNamed_within ih h).2
  arguments h := (readArguments_within ih h).1
  arguments_succ h := (readArguments_within ih h).2

end Step

/-- At every budget, each of the reader's functions is within its means. -/
theorem readsWithin (cx : NotationContext) : ∀ fuel, ReadsWithin cx fuel
  | 0 => readsWithin_zero
  | fuel + 1 => readsWithin_succ (readsWithin cx fuel)

/-- Past two steps for each unread character and two more, no budget changes the type read. -/
theorem readType_budget_stable (cx : NotationContext) {fuel : Nat} {c : Cursor}
    (hfuel : 2 * c.rest.length + 2 ≤ fuel) (extra : Nat) :
    readType cx (fuel + extra) c = readType cx fuel c := by
  induction extra with
  | zero => rfl
  | succ extra ih =>
    rw [← Nat.add_assoc, (readsWithin cx (fuel + extra)).type_succ (by omega), ih]

/-- Reading a whole text as a type gives a type or a fault in the text, never a fault of
budget. -/
theorem parse_never_exhausts (src : String) (scopes : List (String × Int32)) (e : NotationError)
    (h : TypeSig.parse src scopes = .error e) : e.issue ≠ .exhausted := by
  have hread := (readsWithin ⟨src, scopes⟩ (4 * src.length + 4)).type (c := ⟨src.toList, 0⟩)
    (by rw [String.length_toList]; omega)
  rw [TypeSig.parse] at h
  split at h
  · rename_i e' he
    rw [he] at hread
    cases h
    exact hread
  · dsimp only at h
    split at h
    · cases h
    · cases h
      simp

/-- Reading a type's notation ends on the text.  The suffix loop, at a step for each unread
character and one more, ends on the text.  At two steps for each unread character and two more,
each of the four reading functions ends on the text, a type, a core or an argument list read
takes at least one character, and one more step changes nothing.  So a whole text, read at twice
that budget, gives a type or a fault in the text, never a fault of budget, and the same answer as
at every budget past the bound. -/
theorem notation_reading_ends :
    (∀ (cx : NotationContext) (fuel : Nat) (sig : TypeSig) (c : Cursor),
      c.rest.length + 1 ≤ fuel → EndsOnText 0 c (readSuffixes cx fuel sig c)) ∧
    (∀ (cx : NotationContext) (fuel : Nat), ReadsWithin cx fuel) ∧
    ∀ (src : String) (scopes : List (String × Int32)),
      (∀ e, TypeSig.parse src scopes = .error e → e.issue ≠ .exhausted) ∧
      ∀ fuel, 2 * src.length + 2 ≤ fuel →
        readType ⟨src, scopes⟩ fuel ⟨src.toList, 0⟩ =
          readType ⟨src, scopes⟩ (4 * src.length + 4) ⟨src.toList, 0⟩ := by
  refine ⟨fun cx _ _ _ hfuel => readSuffixes_within cx hfuel, readsWithin,
    fun src scopes => ⟨parse_never_exhausts src scopes, fun fuel hfuel => ?_⟩⟩
  -- both budgets are past the bound, so both give what the bound gives
  have hbound : 2 * (⟨src.toList, 0⟩ : Cursor).rest.length + 2 ≤ 2 * src.length + 2 := by
    simp [String.length_toList]
  obtain ⟨extra, rfl⟩ := Nat.exists_eq_add_of_le hfuel
  obtain ⟨more, hmore⟩ := Nat.exists_eq_add_of_le (by omega : 2 * src.length + 2 ≤ 4 * src.length + 4)
  rw [hmore, readType_budget_stable _ hbound, readType_budget_stable _ hbound]

end NativeExports

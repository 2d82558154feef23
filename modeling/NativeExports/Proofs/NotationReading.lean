import Mathlib
import NativeExports.Signature.Notation
import NativeExports.Assembler.Ident
import NativeExports.Proofs.PathCleaning
/-!
Purpose: what the reader of the type notation does with text of the shapes the writer
produces.

Each lemma takes a text that starts with a piece the writer writes and goes on with any rest
of a stated kind, and says what the reader returns and where it stops: a name is read up to
the first character that ends names (`readName_append`), a keyword followed by a blank is
taken (`word?_keyword`), a chain of array, pointer and by-reference suffixes is applied in
order (`readSuffixes_append`), and a written dotted and slashed name splits back into its
namespace, enclosing types and name (`splitTypeName_written`).  Built on these, every
primitive's keyword reads as that primitive (`readType_primitive`), and a named type is read
in steps that follow the reader's own functions: kind word and scope (`readType_scoped`), name
(`readCore_named`), then suffixes or generic arguments (`readNamed_plain`, `readNamed_args`,
`readArguments_next`, `readArguments_last`).

The rests the writer leaves after a type are those `Ends` admits: nothing, or a comma or a
closing angle bracket of an argument list.  `ReadsAs` and `ArgsReadAs` gather the pieces into
what a whole written type and a whole argument list read as, with a budget no smaller than
the text, and are built up the way the writer builds its text (`ReadsAs.suffix`,
`readsAs_primitive`, `readsAs_named`, `readsAs_namedArgs`, `argsReadAs_cons`).
-/

namespace NativeExports

open Assembler

/-! ### Characters -/

/-- What may follow a type in written notation: nothing, or the comma or closing angle bracket
of a generic argument list. -/
def Ends (rest : List Char) : Prop := ∀ x ∈ rest.head?, x = ',' ∨ x = '>'

theorem Ends.nil : Ends [] := fun _ h => by cases h

theorem Ends.comma (rest : List Char) : Ends (',' :: rest) := fun _ h => by
  cases h
  exact .inl rfl

theorem Ends.close (rest : List Char) : Ends ('>' :: rest) := fun _ h => by
  cases h
  exact .inr rfl

/-- The characters that end names. -/
def nameEnders : List Char := ['\x00', ' ', '\t', '<', '>', '[', ']', ',', '*', '&']

theorem isNameChar_eq_false_iff (x : Char) : Cursor.isNameChar x = false ↔ x ∈ nameEnders := by
  simp only [Cursor.isNameChar, Bool.not_eq_false', Bool.or_eq_true, decide_eq_true_eq, nameEnders,
    List.mem_cons, List.not_mem_nil, or_false, or_assoc]

/-- Identifier characters never end a name. -/
theorem isNameChar_of_isIdentPart {x : Char} (h : isIdentPart x = true) :
    Cursor.isNameChar x = true := by
  have hends : (nameEnders.all fun y => !isIdentPart y) = true := by decide
  cases hname : Cursor.isNameChar x with
  | true => rfl
  | false =>
    have hx := List.all_eq_true.1 hends x ((isNameChar_eq_false_iff x).1 hname)
    rw [h] at hx
    cases hx

/-! ### Cursors -/

namespace Cursor

/-- Blanks are skipped only where the text starts with one. -/
theorem skipBlanksFrom_of_head {rest : List Char} (h : ∀ x ∈ rest.head?, x ≠ ' ' ∧ x ≠ '\t')
    (off : Nat) : skipBlanksFrom off rest = ⟨rest, off⟩ := by
  match rest, h with
  | [], _ => rfl
  | x :: more, h =>
    obtain ⟨hspace, htab⟩ := h x rfl
    rw [skipBlanksFrom.eq_def]
    split <;> simp_all

/-- A name is read up to the first character that ends names. -/
theorem readName_append {pre rest : List Char} (hpre : ∀ x ∈ pre, isNameChar x = true)
    (hrest : ∀ x ∈ rest.head?, isNameChar x = false) (off : Nat) :
    readName ⟨pre ++ rest, off⟩ = (String.ofList pre, ⟨rest, off + (String.ofList pre).utf8ByteSize⟩) := by
  have htake : rest.takeWhile isNameChar = [] := by
    cases rest with
    | nil => rfl
    | cons x more => simp [hrest x rfl]
  have hdrop : rest.dropWhile isNameChar = rest := by
    cases rest with
    | nil => rfl
    | cons x more => simp [hrest x rfl]
  simp [readName, List.takeWhile_append_of_pos hpre, List.dropWhile_append_of_pos hpre, htake, hdrop]

/-- A keyword followed by a blank is taken, with the blanks after it. -/
theorem word?_keyword (kw : String) (rest : List Char) (off : Nat) :
    word? kw ⟨kw.toList ++ ' ' :: rest, off⟩ =
      some (skipBlanksFrom (off + kw.utf8ByteSize) (' ' :: rest)) := by
  simp [word?]

/-- A text that does not start with the keyword does not take it. -/
theorem word?_eq_none {kw : String} {c : Cursor} (h : c.rest.take kw.toList.length ≠ kw.toList) :
    word? kw c = none := by
  simp [word?, h]

end Cursor

/-! ### Suffixes -/

/-- A suffix of the notation: brackets holding some commas (an array of one dimension more
than it has commas), a star (a pointer) or an ampersand (a by-reference type). -/
inductive Suffix where
  | array (commas : Nat)
  | pointer
  | byref

namespace Suffix

/-- The text of a suffix. -/
def text : Suffix → List Char
  | .array commas => '[' :: (List.replicate commas ',' ++ [']'])
  | .pointer => ['*']
  | .byref => ['&']

/-- The type a suffix makes of the type before it, as the reader builds it. -/
def apply : Suffix → TypeSig → TypeSig
  | .array commas, s => TypeSig.arrayOf s (commas + 1)
  | .pointer, s => TypeSig.pointerTo s
  | .byref, s => TypeSig.byRefTo s

end Suffix

/-- The text of a chain of suffixes, innermost first. -/
def suffixesText (ws : List Suffix) : List Char := ws.flatMap Suffix.text

/-- The type a chain of suffixes makes of a type, innermost first. -/
def applySuffixes (ws : List Suffix) (base : TypeSig) : TypeSig :=
  ws.foldl (fun s w => w.apply s) base

@[simp] theorem suffixesText_nil : suffixesText [] = [] := rfl

@[simp] theorem applySuffixes_nil (base : TypeSig) : applySuffixes [] base = base := rfl

/-- A chain of suffixes followed by a rest that may follow a type is read whole when the
budget allows one step per suffix. -/
theorem readSuffixes_append (cx : NotationContext) :
    ∀ (ws : List Suffix) (base : TypeSig) (rest : List Char) (fuel off : Nat), Ends rest →
      ws.length < fuel →
      ∃ off', readSuffixes cx fuel base ⟨suffixesText ws ++ rest, off⟩ =
        .ok (applySuffixes ws base, ⟨rest, off'⟩)
  | _, _, _, 0, _, _, hfuel => absurd hfuel (Nat.not_lt_zero _)
  | [], base, rest, fuel + 1, off, hends, _ => by
    refine ⟨off, ?_⟩
    -- the rest starts with nothing a suffix starts with
    rcases rest with _ | ⟨x, more⟩
    · rfl
    · rcases hends x rfl with rfl | rfl <;>
        simp [readSuffixes, suffixesText, applySuffixes, Cursor.skipBlanks,
          Cursor.skipBlanksFrom, Cursor.peek]
  | w :: ws, base, rest, fuel + 1, off, hends, hfuel => by
    have hws : ws.length < fuel := by simp at hfuel; omega
    cases w with
    | array commas =>
      obtain ⟨off', hread⟩ := readSuffixes_append cx ws (TypeSig.arrayOf base (commas + 1)) rest
        fuel (off + '['.utf8Size + commas + ']'.utf8Size) hends hws
      refine ⟨off', ?_⟩
      simp only [suffixesText, List.flatMap_cons, Suffix.text, List.cons_append,
        List.append_assoc] at hread ⊢
      simp [readSuffixes, Cursor.skipBlanks, Cursor.skipBlanksFrom, Cursor.peek, Cursor.advance,
        applySuffixes, Suffix.apply, hread]
    | pointer =>
      obtain ⟨off', hread⟩ := readSuffixes_append cx ws (TypeSig.pointerTo base) rest fuel
        (off + '*'.utf8Size) hends hws
      exact ⟨off', by simpa [readSuffixes, suffixesText, Suffix.text, Cursor.skipBlanks,
        Cursor.skipBlanksFrom, Cursor.peek, Cursor.advance, applySuffixes, Suffix.apply] using hread⟩
    | byref =>
      obtain ⟨off', hread⟩ := readSuffixes_append cx ws (TypeSig.byRefTo base) rest fuel
        (off + '&'.utf8Size) hends hws
      exact ⟨off', by simpa [readSuffixes, suffixesText, Suffix.text, Cursor.skipBlanks,
        Cursor.skipBlanksFrom, Cursor.peek, Cursor.advance, applySuffixes, Suffix.apply] using hread⟩

/-- Every suffix is written with at least one character. -/
theorem Suffix.length_text_pos (w : Suffix) : 0 < w.text.length := by
  cases w <;> simp [Suffix.text]

theorem length_le_suffixesText (ws : List Suffix) : ws.length ≤ (suffixesText ws).length := by
  induction ws with
  | nil => simp [suffixesText]
  | cons w ws ih =>
    have hw := Suffix.length_text_pos w
    simp only [suffixesText, List.flatMap_cons, List.length_append, List.length_cons] at ih ⊢
    omega

/-- The budget the reader gives its suffix loop, one more than the characters left, is enough
for every chain of suffixes. -/
theorem readSuffixes_read (cx : NotationContext) (ws : List Suffix) (base : TypeSig)
    {rest : List Char} (hends : Ends rest) (off : Nat) :
    ∃ off', readSuffixes cx ((suffixesText ws ++ rest).length + 1) base ⟨suffixesText ws ++ rest, off⟩ =
      .ok (applySuffixes ws base, ⟨rest, off'⟩) :=
  readSuffixes_append cx ws base rest _ off hends (by
    have := length_le_suffixesText ws
    simp only [List.length_append]
    omega)

/-- What can follow a type's core: a suffix, or what may follow a type. -/
theorem suffixes_head (ws : List Suffix) {rest : List Char} (h : Ends rest) :
    ∀ x ∈ (suffixesText ws ++ rest).head?, x = '[' ∨ x = '*' ∨ x = '&' ∨ x = ',' ∨ x = '>' := by
  intro x hx
  match ws, hx with
  | [], hx => rcases h x hx with rfl | rfl <;> simp
  | .array _ :: _, hx => cases hx; simp
  | .pointer :: _, hx => cases hx; simp
  | .byref :: _, hx => cases hx; simp

theorem suffixes_head_not_name (ws : List Suffix) {rest : List Char} (h : Ends rest) :
    ∀ x ∈ (suffixesText ws ++ rest).head?, Cursor.isNameChar x = false := by
  intro x hx
  rcases suffixes_head ws h x hx with rfl | rfl | rfl | rfl | rfl <;> rfl

/-! ### Splitting written names -/

/-- A first segment written as namespace, dot and name splits at that dot, and one without a
namespace is the name alone. -/
theorem lastDot_written (ns own : String) (hown : ∀ x ∈ own.toList, x ≠ '.') :
    let cs := ((if ns = "" then "" else ns ++ ".") ++ own).toList
    let tailLen := (cs.reverse.takeWhile (· ≠ '.')).length
    (if tailLen < cs.length then
        (String.ofList (cs.take (cs.length - tailLen - 1)), String.ofList (cs.drop (cs.length - tailLen)))
      else ("", (if ns = "" then "" else ns ++ ".") ++ own)) = (ns, own) := by
  intro cs tailLen
  -- reading from the end, the name runs up to the first dot
  have hname : own.toList.reverse.takeWhile (fun x => !decide (x = '.')) = own.toList.reverse := by
    simpa using @List.takeWhile_append_of_pos _ (fun x => !decide (x = '.')) _ []
      (by simpa using hown)
  by_cases hns : ns = ""
  · have hcs : cs = own.toList := by simp [cs, hns]
    have htail : tailLen = cs.length := by simp [tailLen, hcs, hname]
    simp [htail, hns]
  · have hcs : cs = ns.toList ++ '.' :: own.toList := by simp [cs, hns]
    have htail : tailLen = own.toList.length := by
      simp only [tailLen, hcs, List.reverse_append, List.reverse_cons, List.append_assoc,
        List.singleton_append]
      rw [List.takeWhile_append_of_pos (by simpa using hown)]
      simp
    have hlen : cs.length = ns.toList.length + 1 + own.toList.length := by
      simp [hcs]
      omega
    rw [if_pos (by omega), htail, hlen]
    simp only [hcs, Nat.add_sub_cancel]
    rw [List.take_left' rfl, ← List.singleton_append, ← List.append_assoc,
      List.drop_left' (by simp)]
    simp

/-- A written type name (the namespace and a dot when there is a namespace, then the enclosing
types and the name joined by slashes) splits back into namespace, enclosing types and name. -/
theorem splitTypeName_written {ns name : String} {enclosing : List String}
    (hns : '/' ∉ ns.toList)
    (hparts : ∀ part ∈ enclosing ++ [name], part ≠ "" ∧ '/' ∉ part.toList ∧ '.' ∉ part.toList) :
    splitTypeName ((if ns = "" then "" else ns ++ ".") ++ String.intercalate "/" (enclosing ++ [name])) =
      some (ns, enclosing, name) := by
  obtain ⟨first, more, hchain⟩ : ∃ first more, enclosing ++ [name] = first :: more := by
    cases henc : enclosing ++ [name] with
    | nil => simp at henc
    | cons first more => exact ⟨first, more, rfl⟩
  have hfirst := hparts first (by rw [hchain]; exact List.mem_cons_self)
  -- the namespace and its dot stay with the first segment
  have hsegments : Text.splitOnChar '/'
      ((if ns = "" then "" else ns ++ ".") ++ String.intercalate "/" (first :: more)) =
        ((if ns = "" then "" else ns ++ ".") ++ first) :: more := by
    rw [← String.intercalate_cons_append]
    refine splitOnChar_intercalate (c := '/') (fun part hpart => ?_) (List.cons_ne_nil _ _)
    rcases List.mem_cons.1 hpart with rfl | hmore
    · by_cases hempty : ns = ""
      · simpa [hempty] using hfirst.2.1
      · simp [hempty, hns, hfirst.2.1]
    · exact (hparts part (by rw [hchain]; exact List.mem_cons_of_mem _ hmore)).2.1
  have hsplit := lastDot_written ns first (fun x hx hdot => hfirst.2.2 (hdot ▸ hx))
  have hnonempty : ((enclosing ++ [name]).any fun part => part = "") = false := by
    simpa using ⟨fun part hpart => (hparts part (by simp [hpart])).1, (hparts name (by simp)).1⟩
  simp only [splitTypeName, hchain, hsegments]
  simp only [hsplit, ← hchain, hnonempty, Bool.false_eq_true, if_false, List.dropLast_concat,
    List.getLast?_concat, Option.getD_some]

/-! ### Leading blanks -/

/-- A type or an argument list starting with a blank reads as the text after it. -/
theorem readType_blank (cx : NotationContext) (fuel : Nat) (rest : List Char) (off : Nat) :
    readType cx (fuel + 1) ⟨' ' :: rest, off⟩ = readType cx (fuel + 1) ⟨rest, off + 1⟩ := by
  rw [readType, readType]
  rfl

theorem readArguments_blank (cx : NotationContext) (fuel : Nat) (acc : List (Option TypeSig))
    (rest : List Char) (off : Nat) :
    readArguments cx (fuel + 2) acc ⟨' ' :: rest, off⟩ =
      readArguments cx (fuel + 2) acc ⟨rest, off + 1⟩ := by
  simp only [readArguments, readType_blank]

/-! ### Primitives -/

/-- A word the reader takes for a bare name: name characters only, at least two of them, and
starting unlike each of the words `valuetype`, `class` and `native`. -/
def BareWord (k : List Char) : Prop :=
  k.all Cursor.isNameChar = true ∧ 2 ≤ k.length ∧
    ∀ kw ∈ ["valuetype", "class", "native"], k.take 2 ≠ kw.toList.take 2

instance : DecidablePred BareWord := fun _ => inferInstanceAs (Decidable (_ ∧ _ ∧ _))

/-- A text starting unlike a keyword does not take it. -/
theorem word?_of_bareWord {k : List Char} (hk : 2 ≤ k.length) {kw : String}
    (hkw : 2 ≤ kw.toList.length) (hne : k.take 2 ≠ kw.toList.take 2) (rest : List Char) (off : Nat) :
    Cursor.word? kw ⟨k ++ rest, off⟩ = none := by
  apply Cursor.word?_eq_none
  intro h
  apply hne
  have := congrArg (List.take 2) h
  rwa [List.take_take, Nat.min_eq_left hkw, List.take_append_of_le_length hk] at this

/-- A bare primitive keyword, with any suffixes, reads as that primitive. -/
theorem readType_bareWord (cx : NotationContext) {k : String} {p : Primitive} (hk : BareWord k.toList)
    (hkw : Primitive.ofKeyword? k = some p) (ws : List Suffix) {rest : List Char} (hends : Ends rest)
    (fuel off : Nat) :
    ∃ off', readType cx (fuel + 2) ⟨k.toList ++ suffixesText ws ++ rest, off⟩ =
      .ok (applySuffixes ws (TypeSig.prim p), ⟨rest, off'⟩) := by
  obtain ⟨hnames, hlen, hstart⟩ := hk
  have hname : ∀ x ∈ k.toList, Cursor.isNameChar x = true := List.all_eq_true.1 hnames
  obtain ⟨x, xs, hx⟩ : ∃ x xs, k.toList = x :: xs := by
    cases h : k.toList with
    | nil => simp [h] at hlen
    | cons x xs => exact ⟨x, xs, rfl⟩
  have hxname := hname x (by simp [hx])
  have hxends : x ∉ nameEnders := fun h => by simp [(isNameChar_eq_false_iff x).2 h] at hxname
  have hva := word?_of_bareWord hlen (by decide) (hstart "valuetype" (by simp))
    (suffixesText ws ++ rest) off
  have hcl := word?_of_bareWord hlen (by decide) (hstart "class" (by simp))
    (suffixesText ws ++ rest) off
  have hna := word?_of_bareWord hlen (by decide) (hstart "native" (by simp))
    (suffixesText ws ++ rest) off
  have hblank : x ≠ ' ' ∧ x ≠ '\t' ∧ x ≠ '[' := by
    simp only [nameEnders, List.mem_cons, List.not_mem_nil, or_false, not_or] at hxends
    exact ⟨hxends.2.1, hxends.2.2.1, hxends.2.2.2.2.2.1⟩
  have hskip : Cursor.skipBlanksFrom off (k.toList ++ (suffixesText ws ++ rest)) =
      ⟨k.toList ++ (suffixesText ws ++ rest), off⟩ :=
    Cursor.skipBlanksFrom_of_head (fun y hy => by
      rw [hx, List.cons_append, List.head?_cons, Option.mem_some_iff] at hy
      exact hy ▸ ⟨hblank.1, hblank.2.1⟩) off
  have hpeek : Cursor.peek ⟨k.toList ++ (suffixesText ws ++ rest), off⟩ ≠ some '[' := by
    simp only [Cursor.peek, hx, List.cons_append, List.head?_cons, ne_eq, Option.some.injEq]
    exact hblank.2.2
  have hread := Cursor.readName_append hname (suffixes_head_not_name ws hends) off
  have hnonempty : k ≠ "" := by
    rintro rfl
    cases hx
  obtain ⟨off', hsuf⟩ := readSuffixes_read cx ws (TypeSig.prim p) hends (off + k.utf8ByteSize)
  refine ⟨off', ?_⟩
  simp only [List.append_assoc]
  simp only [readType, Cursor.skipBlanks, hskip, hva, hcl, hpeek, if_false, Bool.not_false, hna]
  simp only [readCore, hread, String.ofList_toList, hkw, hnonempty, if_true, if_false,
    Bool.not_false, Bool.and_self, hsuf]

/-- A native keyword (`native` and a word), with any suffixes, reads as that primitive. -/
theorem readType_nativeWord (cx : NotationContext) {w : String} {p : Primitive}
    (hw : w.toList.all Cursor.isNameChar = true)
    (hhead : ∃ x xs, w.toList = x :: xs ∧ x ≠ ' ' ∧ x ≠ '\t')
    (hkw : Primitive.ofKeyword? ("native " ++ w) = some p) (ws : List Suffix) {rest : List Char}
    (hends : Ends rest) (fuel off : Nat) :
    ∃ off', readType cx (fuel + 1) ⟨("native " ++ w).toList ++ suffixesText ws ++ rest, off⟩ =
      .ok (applySuffixes ws (TypeSig.prim p), ⟨rest, off'⟩) := by
  obtain ⟨x, xs, hx, hspace, htab⟩ := hhead
  have htext : ("native " ++ w).toList ++ suffixesText ws ++ rest =
      "native".toList ++ ' ' :: (w.toList ++ (suffixesText ws ++ rest)) := by simp
  have hna : 2 ≤ "native".toList.length := by decide
  have hva := @word?_of_bareWord _ hna "valuetype" (by decide) (by decide)
    (' ' :: (w.toList ++ (suffixesText ws ++ rest))) off
  have hcl := @word?_of_bareWord _ hna "class" (by decide) (by decide)
    (' ' :: (w.toList ++ (suffixesText ws ++ rest))) off
  have hskip : Cursor.skipBlanksFrom (off + "native".utf8ByteSize) (' ' :: (w.toList ++ (suffixesText ws ++ rest))) =
      ⟨w.toList ++ (suffixesText ws ++ rest), off + "native".utf8ByteSize + 1⟩ := by
    rw [Cursor.skipBlanksFrom]
    exact Cursor.skipBlanksFrom_of_head (fun y hy => by simp [hx] at hy; exact hy ▸ ⟨hspace, htab⟩) _
  have hread := Cursor.readName_append (List.all_eq_true.1 hw) (suffixes_head_not_name ws hends)
    (off + "native".utf8ByteSize + 1)
  obtain ⟨off', hsuf⟩ := readSuffixes_read cx ws (TypeSig.prim p) hends
    (off + "native".utf8ByteSize + 1 + w.utf8ByteSize)
  refine ⟨off', ?_⟩
  have hskip0 : Cursor.skipBlanksFrom off ("native".toList ++ ' ' :: (w.toList ++ (suffixesText ws ++ rest))) =
      ⟨"native".toList ++ ' ' :: (w.toList ++ (suffixesText ws ++ rest)), off⟩ :=
    Cursor.skipBlanksFrom_of_head (fun y hy => by simp at hy; subst hy; decide) off
  have hpeek : Cursor.peek ⟨"native".toList ++ ' ' :: (w.toList ++ (suffixesText ws ++ rest)), off⟩ ≠
      some '[' := by simp [Cursor.peek]
  rw [htext]
  simp only [readType, Cursor.skipBlanks, hskip0, hva, hcl, hpeek, if_false, Bool.not_false, if_true,
    Cursor.word?_keyword, hskip, hread, String.ofList_toList, hkw, hsuf]

theorem Primitive.mem_all (p : Primitive) : p ∈ Primitive.all := by
  cases p <;> decide

theorem Primitive.ofKeyword?_keyword (p : Primitive) : Primitive.ofKeyword? p.keyword = some p := by
  have hall : ∀ q ∈ Primitive.all, Primitive.ofKeyword? q.keyword = some q := by decide
  exact hall p (Primitive.mem_all p)

theorem Primitive.bareWord_keyword {p : Primitive} (h : p ≠ .nativeInt ∧ p ≠ .nativeUInt) :
    BareWord p.keyword.toList := by
  have hall : ∀ q ∈ Primitive.all, q ≠ .nativeInt ∧ q ≠ .nativeUInt → BareWord q.keyword.toList := by
    decide
  exact hall p (Primitive.mem_all p) h

/-- Every primitive's keyword, with any suffixes, reads as that primitive. -/
theorem readType_primitive (cx : NotationContext) (p : Primitive) (ws : List Suffix) {rest : List Char}
    (hends : Ends rest) (fuel off : Nat) :
    ∃ off', readType cx (fuel + 2) ⟨p.keyword.toList ++ suffixesText ws ++ rest, off⟩ =
      .ok (applySuffixes ws (TypeSig.prim p), ⟨rest, off'⟩) := by
  -- the two native types are the keyword `native` and a word; the others are bare words
  by_cases hint : p = .nativeInt
  · subst hint
    exact readType_nativeWord cx (w := "int") (by decide) ⟨'i', _, rfl, by decide, by decide⟩
      rfl ws hends (fuel + 1) off
  by_cases huint : p = .nativeUInt
  · subst huint
    exact readType_nativeWord cx (w := "uint") (by decide) ⟨'u', _, rfl, by decide, by decide⟩
      rfl ws hends (fuel + 1) off
  exact readType_bareWord cx (Primitive.bareWord_keyword ⟨hint, huint⟩) (Primitive.ofKeyword?_keyword p)
    ws hends fuel off

/-! ### Named types -/

/-- The text of a named type's kind word. -/
def kindWord (valueType : Bool) : String := if valueType then "valuetype " else "class "

theorem length_kindWord (valueType : Bool) : 6 ≤ (kindWord valueType).length := by
  cases valueType <;> decide

/-- A kind word and a scope in brackets lead to reading the named type's core in that scope. -/
theorem readType_scoped (cx : NotationContext) (vt : Bool) {moduleAlias : String} {idx : Int32}
    (halias : ∀ x ∈ moduleAlias.toList, Cursor.isNameChar x = true)
    (hlookup : cx.scopes.lookup (Text.lower moduleAlias) = some idx) (body : List Char) (fuel off : Nat) :
    ∃ off', readType cx (fuel + 1)
        ⟨(kindWord vt).toList ++ '[' :: (moduleAlias.toList ++ ']' :: body), off⟩ =
      readCore cx fuel idx true true vt ⟨body, off'⟩ := by
  have hname := @Cursor.readName_append moduleAlias.toList (']' :: body) halias (fun x hx => by cases hx; rfl)
  -- each kind word is taken by its own test, with the blank after it
  cases vt
  all_goals
    constructor
    simp [readType, kindWord, Cursor.skipBlanks, Cursor.skipBlanksFrom, Cursor.word?, Cursor.peek,
      Cursor.advance, hname, hlookup]
    rfl

/-- After a written scope the name is read whole, and a name that is a keyword still names a
type. -/
theorem readCore_named (cx : NotationContext) {full : String} (hfull : full ≠ "")
    (hname : ∀ x ∈ full.toList, Cursor.isNameChar x = true) {after : List Char}
    (hafter : ∀ x ∈ after.head?, Cursor.isNameChar x = false) (scope : Int32) (kindGiven valueType : Bool)
    (fuel off : Nat) :
    readCore cx (fuel + 1) scope true kindGiven valueType ⟨full.toList ++ after, off⟩ =
      readNamed cx fuel scope valueType full ⟨after, off + full.utf8ByteSize⟩ := by
  simp only [readCore, Cursor.readName_append hname hafter, String.ofList_toList, hfull, if_false,
    Bool.not_true, Bool.false_and, Bool.false_eq_true]
  split <;> rfl

theorem readNamed_plain (cx : NotationContext) {full ns name : String} {enclosing : List String}
    (hsplit : splitTypeName full = some (ns, enclosing, name)) (scope : Int32) (valueType : Bool)
    (ws : List Suffix) {rest : List Char} (hends : Ends rest) (fuel off : Nat) :
    ∃ off', readNamed cx (fuel + 1) scope valueType full ⟨suffixesText ws ++ rest, off⟩ =
      .ok (applySuffixes ws { TypeSig.named scope ns name enclosing with valueType := valueType },
        ⟨rest, off'⟩) := by
  have hpeek : Cursor.peek ⟨suffixesText ws ++ rest, off⟩ ≠ some '<' := by
    intro h
    rcases suffixes_head ws hends '<' h with h | h | h | h | h <;> cases h
  obtain ⟨off', hsuf⟩ := readSuffixes_read cx ws
    { TypeSig.named scope ns name enclosing with valueType := valueType } hends off
  exact ⟨off', by simp only [readNamed, hsplit, hpeek, if_false, hsuf]⟩

theorem readNamed_args (cx : NotationContext) {full ns name : String} {enclosing : List String}
    (hsplit : splitTypeName full = some (ns, enclosing, name)) (scope : Int32) (valueType : Bool)
    {more : List Char} {fuel off off' : Nat} {args : List (Option TypeSig)} {ws : List Suffix}
    {rest : List Char} (hargs : readArguments cx fuel [] ⟨more, off + '<'.utf8Size⟩ =
      .ok (args, ⟨suffixesText ws ++ rest, off'⟩)) (hends : Ends rest) :
    ∃ off'', readNamed cx (fuel + 1) scope valueType full ⟨'<' :: more, off⟩ =
      .ok (applySuffixes ws { { TypeSig.named scope ns name enclosing with valueType := valueType } with
        args := args }, ⟨rest, off''⟩) := by
  obtain ⟨off'', hsuf⟩ := readSuffixes_read cx ws
    { { TypeSig.named scope ns name enclosing with valueType := valueType } with args := args } hends
    off'
  exact ⟨off'', by simp only [readNamed, hsplit, Cursor.peek, Cursor.advance, List.head?_cons, if_true, hargs, hsuf]⟩

/-- The last generic argument ends at the closing angle bracket. -/
theorem readArguments_last (cx : NotationContext) {fuel off off' : Nat} {acc : List (Option TypeSig)}
    {first more : List Char} {arg : TypeSig}
    (hfirst : readType cx fuel ⟨first ++ '>' :: more, off⟩ = .ok (arg, ⟨'>' :: more, off'⟩)) :
    readArguments cx (fuel + 1) acc ⟨first ++ '>' :: more, off⟩ =
      .ok (acc ++ [some arg], ⟨more, off' + '>'.utf8Size⟩) := by
  simp [readArguments, hfirst, Cursor.skipBlanks, Cursor.skipBlanksFrom, Cursor.peek, Cursor.advance]

/-- An argument followed by a comma and a blank leaves the rest of the list to read. -/
theorem readArguments_next (cx : NotationContext) {fuel off off' : Nat} {acc : List (Option TypeSig)}
    {first more : List Char} {arg : TypeSig}
    (hfirst : readType cx (fuel + 2) ⟨first ++ ',' :: ' ' :: more, off⟩ =
      .ok (arg, ⟨',' :: ' ' :: more, off'⟩)) :
    readArguments cx (fuel + 3) acc ⟨first ++ ',' :: ' ' :: more, off⟩ =
      readArguments cx (fuel + 2) (acc ++ [some arg]) ⟨more, off' + ','.utf8Size + 1⟩ := by
  rw [readArguments.eq_2]
  simp only [hfirst, Cursor.skipBlanks, Cursor.peek, Cursor.advance]
  exact readArguments_blank cx fuel _ more _

/-! ### Reading types whole -/

section Whole

variable (cx : NotationContext)

/-- A text reads as a signature: followed by any chain of suffixes and by anything that may
follow a type, and with a budget of at least its length, the reader returns the signature
with the suffixes applied and stops where the rest begins. -/
def ReadsAs (text : String) (sig : TypeSig) : Prop :=
  ∀ (ws : List Suffix) (rest : List Char) (fuel off : Nat), Ends rest → text.length ≤ fuel →
    ∃ off', readType cx fuel ⟨text.toList ++ suffixesText ws ++ rest, off⟩ =
      .ok (applySuffixes ws sig, ⟨rest, off'⟩)

/-- A text reads as a list of generic arguments: followed by the closing angle bracket and
anything, and with a budget beyond its length, the argument reader adds the arguments to what
it has read and stops after the bracket. -/
def ArgsReadAs (joined : String) (args : List (Option TypeSig)) : Prop :=
  ∀ (acc : List (Option TypeSig)) (more : List Char) (fuel off : Nat), joined.length < fuel →
    ∃ off', readArguments cx fuel acc ⟨joined.toList ++ '>' :: more, off⟩ = .ok (acc ++ args, ⟨more, off'⟩)

variable {cx}

/-- A suffix written after a type is read as part of its chain of suffixes. -/
theorem ReadsAs.suffix {text : String} {sig : TypeSig} (h : ReadsAs cx text sig) {suffix : String}
    {w : Suffix} (htext : suffix.toList = w.text) : ReadsAs cx (text ++ suffix) (w.apply sig) := by
  intro ws rest fuel off hends hfuel
  have hshort : text.length ≤ fuel := by
    simp only [String.length_append] at hfuel
    omega
  obtain ⟨off', hread⟩ := h (w :: ws) rest fuel off hends hshort
  refine ⟨off', ?_⟩
  simpa [suffixesText, applySuffixes, htext] using hread

theorem readsAs_primitive (p : Primitive) : ReadsAs cx p.keyword (TypeSig.prim p) := by
  intro ws rest fuel off hends hfuel
  have hlen : 2 ≤ p.keyword.length := by
    have hall : ∀ q ∈ Primitive.all, 2 ≤ q.keyword.length := by decide
    exact hall p (Primitive.mem_all p)
  obtain ⟨fuel, rfl⟩ : ∃ k, fuel = k + 2 := ⟨fuel - 2, by omega⟩
  exact readType_primitive cx p ws hends fuel off

theorem argsReadAs_single {text : String} {sig : TypeSig} (h : ReadsAs cx text sig) :
    ArgsReadAs cx text [some sig] := by
  intro acc more fuel off hfuel
  obtain ⟨fuel, rfl⟩ : ∃ k, fuel = k + 1 := ⟨fuel - 1, by omega⟩
  obtain ⟨off', hread⟩ := h [] ('>' :: more) fuel off (Ends.close more) (by omega)
  exact ⟨_, readArguments_last cx (by simpa using hread)⟩

/-- Arguments are separated by a comma and a blank. -/
theorem argsReadAs_cons {text joined : String} {sig : TypeSig} {args : List (Option TypeSig)}
    (h : ReadsAs cx text sig) (hrest : ArgsReadAs cx joined args) :
    ArgsReadAs cx (text ++ ", " ++ joined) (some sig :: args) := by
  intro acc more fuel off hfuel
  have hlen : (text ++ ", " ++ joined).length = text.length + 2 + joined.length := by
    simp only [String.length_append]
    rfl
  obtain ⟨fuel, rfl⟩ : ∃ k, fuel = k + 3 := ⟨fuel - 3, by omega⟩
  obtain ⟨off', hread⟩ := h [] (',' :: ' ' :: (joined.toList ++ '>' :: more)) (fuel + 2) off
    (Ends.comma _) (by omega)
  obtain ⟨off'', hnext⟩ := hrest (acc ++ [some sig]) more (fuel + 2) (off' + ','.utf8Size + 1)
    (by omega)
  refine ⟨off'', ?_⟩
  have htext : (text ++ ", " ++ joined).toList ++ '>' :: more =
      text.toList ++ ',' :: ' ' :: (joined.toList ++ '>' :: more) := by simp
  rw [htext, readArguments_next cx (by simpa using hread), hnext]
  simp

/-- A named type without arguments: kind word, scope, and the written name. -/
theorem readsAs_named (valueType : Bool) {moduleAlias full ns name : String} {enclosing : List String}
    {idx : Int32} (halias : ∀ x ∈ moduleAlias.toList, Cursor.isNameChar x = true)
    (hlookup : cx.scopes.lookup (Text.lower moduleAlias) = some idx) (hfull : full ≠ "")
    (hname : ∀ x ∈ full.toList, Cursor.isNameChar x = true)
    (hsplit : splitTypeName full = some (ns, enclosing, name)) :
    ReadsAs cx (kindWord valueType ++ ("[" ++ moduleAlias ++ "]" ++ full))
      { TypeSig.named idx ns name enclosing with valueType := valueType } := by
  intro ws rest fuel off hends hfuel
  have hlen := length_kindWord valueType
  simp only [String.length_append] at hfuel
  obtain ⟨fuel, rfl⟩ : ∃ k, fuel = k + 3 := ⟨fuel - 3, by omega⟩
  have htext : (kindWord valueType ++ ("[" ++ moduleAlias ++ "]" ++ full)).toList ++ suffixesText ws ++ rest =
      (kindWord valueType).toList ++ '[' :: (moduleAlias.toList ++ ']' :: (full.toList ++ (suffixesText ws ++ rest))) := by
    simp
  obtain ⟨off₁, hscoped⟩ := readType_scoped cx valueType halias hlookup
    (full.toList ++ (suffixesText ws ++ rest)) (fuel + 2) off
  obtain ⟨off₂, hnamed⟩ := readNamed_plain cx hsplit idx valueType ws hends fuel
    (off₁ + full.utf8ByteSize)
  refine ⟨off₂, ?_⟩
  rw [htext, hscoped,
    readCore_named cx hfull hname (suffixes_head_not_name ws hends) idx true valueType (fuel + 1) off₁,
    hnamed]

/-- A named type with generic arguments in angle brackets. -/
theorem readsAs_namedArgs (valueType : Bool) {moduleAlias full ns name joined : String}
    {enclosing : List String} {idx : Int32} {args : List (Option TypeSig)}
    (halias : ∀ x ∈ moduleAlias.toList, Cursor.isNameChar x = true)
    (hlookup : cx.scopes.lookup (Text.lower moduleAlias) = some idx) (hfull : full ≠ "")
    (hname : ∀ x ∈ full.toList, Cursor.isNameChar x = true)
    (hsplit : splitTypeName full = some (ns, enclosing, name)) (hargs : ArgsReadAs cx joined args) :
    ReadsAs cx (kindWord valueType ++ ("[" ++ moduleAlias ++ "]" ++ full) ++ "<" ++ joined ++ ">")
      { { TypeSig.named idx ns name enclosing with valueType := valueType } with args := args } := by
  intro ws rest fuel off hends hfuel
  have hlen := length_kindWord valueType
  simp only [String.length_append] at hfuel
  obtain ⟨fuel, rfl⟩ : ∃ k, fuel = k + 3 := ⟨fuel - 3, by omega⟩
  have htext : (kindWord valueType ++ ("[" ++ moduleAlias ++ "]" ++ full) ++ "<" ++ joined ++ ">").toList ++
      suffixesText ws ++ rest = (kindWord valueType).toList ++ '[' :: (moduleAlias.toList ++ ']' ::
        (full.toList ++ '<' :: (joined.toList ++ '>' :: (suffixesText ws ++ rest)))) := by
    simp
  obtain ⟨off₁, hscoped⟩ := readType_scoped cx valueType halias hlookup
    (full.toList ++ '<' :: (joined.toList ++ '>' :: (suffixesText ws ++ rest))) (fuel + 2) off
  obtain ⟨off₂, hlist⟩ := hargs [] (suffixesText ws ++ rest) fuel
    (off₁ + full.utf8ByteSize + '<'.utf8Size) (by
      have : "<".length = 1 := rfl
      have : ">".length = 1 := rfl
      omega)
  obtain ⟨off₃, hnamed⟩ := readNamed_args cx hsplit idx valueType (by simpa using hlist) hends
  refine ⟨off₃, ?_⟩
  rw [htext, hscoped,
    readCore_named cx hfull hname (fun x hx => by cases hx; rfl) idx true valueType (fuel + 1) off₁,
    hnamed]

end Whole

end NativeExports

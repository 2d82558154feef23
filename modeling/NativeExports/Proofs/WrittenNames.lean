import Mathlib
import NativeExports.Proofs.TypeNotation
import NativeExports.Proofs.PathCleaning
/-!
Purpose: a name as the assembler writer writes it reads back in one way only, whatever follows
it.

A name is written bare when it is a plain identifier, and otherwise in single quotes with
backslash, quote, newline and tab escaped.  `unescapeChar` reads each escape back, so inside
quotes the escapes decode in one way up to the closing quote (`escaped_unique`); a bare name
runs up to the first character no identifier goes on with (`quoteIdent_unique`).  A type's name is its namespace's dotted parts and a dot, then its
enclosing types and its own name joined by slashes.  Written in turn with their separators
(`writtenNames`), the parts decode in one way (`writtenNames_unique`), and the parts with their
separators give back the namespace, the enclosing types and the name
(`readNameStream_nameStream`): the last dot ends the namespace.

Main result: `writtenTypeName_unique`.
-/

namespace NativeExports.Assembler

open Text

/-! ### Escapes inside quotes -/

/-- The single quote. -/
abbrev quoteMark : Char := Char.ofNat 0x27

/-- What a character becomes inside single quotes. -/
def escapeChar (c : Char) : List Char :=
  if c = '\\' then ['\\', '\\'] else if c = quoteMark then ['\\', quoteMark]
  else if c = '\n' then ['\\', 'n'] else if c = '\t' then ['\\', 't'] else [c]

theorem toList_escapeSingle (s : String) : (escapeSingle s).toList = s.toList.flatMap escapeChar := by
  rw [escapeSingle, String.toList_join, List.flatMap_map]
  congr 1
  funext c
  unfold escapeChar
  split_ifs
  · rfl
  · rfl
  · rfl
  · rfl
  · -- any other character is written as it is
    simp

/-- An escape starts with a backslash or is a character other than the quote. -/
theorem escapeChar_head (c : Char) : ∃ x xs, escapeChar c = x :: xs ∧ x ≠ quoteMark := by
  unfold escapeChar
  split_ifs with h₁ h₂ h₃ h₄
  · exact ⟨_, _, rfl, by decide⟩
  · exact ⟨_, _, rfl, by decide⟩
  · exact ⟨_, _, rfl, by decide⟩
  · exact ⟨_, _, rfl, by decide⟩
  · exact ⟨c, [], rfl, h₂⟩

/-- Reads one escape off the front of a text: a backslash and the letter or character it
escapes, or a character standing for itself. -/
def unescapeChar : List Char → Option (Char × List Char)
  | '\\' :: c :: r => if c = 'n' then some ('\n', r) else if c = 't' then some ('\t', r) else some (c, r)
  | c :: r => some (c, r)
  | [] => none

theorem unescapeChar_escapeChar (c : Char) (X : List Char) :
    unescapeChar (escapeChar c ++ X) = some (c, X) := by
  unfold escapeChar
  split_ifs with h₁ h₂ h₃ h₄
  · subst h₁
    rfl
  · subst h₂
    rfl
  · subst h₃
    rfl
  · subst h₄
    rfl
  · -- any other character stands for itself
    simp [unescapeChar, h₁]

/-- Escapes are read one at a time: the first one fixes its character. -/
theorem escapeChar_unique {c d : Char} {X Y : List Char} (h : escapeChar c ++ X = escapeChar d ++ Y) :
    c = d ∧ X = Y := by
  have hread := congrArg unescapeChar h
  rw [unescapeChar_escapeChar, unescapeChar_escapeChar] at hread
  simpa using hread

/-- Escaped text up to a closing quote decodes in one way. -/
theorem escaped_unique {a b r₁ r₂ : List Char}
    (h : a.flatMap escapeChar ++ quoteMark :: r₁ = b.flatMap escapeChar ++ quoteMark :: r₂) :
    a = b ∧ r₁ = r₂ := by
  induction a generalizing b with
  | nil =>
    cases b with
    | nil => simpa using h
    | cons d b =>
      -- an escape never starts with the closing quote
      obtain ⟨x, xs, hd, hx⟩ := escapeChar_head d
      simp only [List.flatMap_nil, List.nil_append, List.flatMap_cons, hd, List.cons_append,
        List.cons.injEq] at h
      exact absurd h.1.symm hx
  | cons c a ih =>
    cases b with
    | nil =>
      obtain ⟨x, xs, hc, hx⟩ := escapeChar_head c
      simp only [List.flatMap_nil, List.nil_append, List.flatMap_cons, hc, List.cons_append,
        List.cons.injEq] at h
      exact absurd h.1 hx
    | cons d b =>
      simp only [List.flatMap_cons, List.append_assoc] at h
      obtain ⟨rfl, hrest⟩ := escapeChar_unique h
      obtain ⟨rfl, hr⟩ := ih hrest
      exact ⟨rfl, hr⟩

/-! ### Names -/

theorem toList_quoteIdent (s : String) :
    (quoteIdent s).toList =
      if isPlainIdent s then s.toList else quoteMark :: s.toList.flatMap escapeChar ++ [quoteMark] := by
  unfold quoteIdent
  split
  · rfl
  · simp [toList_escapeSingle]

/-- Two runs of characters that pass a test, each followed by one that fails it or by nothing,
are equal when the texts are. -/
theorem append_unique_of_all {α : Type} {p : α → Bool} {xs ys r₁ r₂ : List α}
    (hxs : ∀ x ∈ xs, p x = true) (hys : ∀ y ∈ ys, p y = true)
    (h₁ : ∀ x ∈ r₁.head?, p x = false) (h₂ : ∀ x ∈ r₂.head?, p x = false)
    (h : xs ++ r₁ = ys ++ r₂) : xs = ys ∧ r₁ = r₂ := by
  have htake : ∀ {zs r : List α}, (∀ z ∈ zs, p z = true) → (∀ x ∈ r.head?, p x = false) →
      (zs ++ r).takeWhile p = zs := by
    intro zs r hzs hr
    rw [List.takeWhile_append_of_pos hzs]
    cases r with
    | nil => simp
    | cons x r => simp [hr x rfl]
  have hxy : xs = ys := by rw [← htake hxs h₁, h, htake hys h₂]
  subst hxy
  exact ⟨rfl, List.append_cancel_left h⟩

/-- What may follow a written name: nothing, or a character no identifier goes on with. -/
def NameEnds (r : List Char) : Prop := ∀ x ∈ r.head?, isIdentPart x = false

theorem isIdentPart_quoteMark : isIdentPart quoteMark = false := by decide

/-- A bare name does not start with a quote. -/
theorem plain_head {s : String} (h : isPlainIdent s = true) :
    ∃ x xs, s.toList = x :: xs ∧ x ≠ quoteMark := by
  obtain ⟨hne, hparts⟩ := identParts_of_isPlainIdent h
  cases hs : s.toList with
  | nil => exact absurd (String.toList_eq_nil_iff.1 hs) hne
  | cons x xs =>
    refine ⟨x, xs, rfl, fun hx => ?_⟩
    have hpart := hparts x (by simp [hs])
    rw [hx, isIdentPart_quoteMark] at hpart
    cases hpart

/-- A written name followed by a character no identifier goes on with reads back in one way. -/
theorem quoteIdent_unique {a b : String} {r₁ r₂ : List Char} (h₁ : NameEnds r₁) (h₂ : NameEnds r₂)
    (h : (quoteIdent a).toList ++ r₁ = (quoteIdent b).toList ++ r₂) : a = b ∧ r₁ = r₂ := by
  rw [toList_quoteIdent, toList_quoteIdent] at h
  by_cases ha : isPlainIdent a = true <;> by_cases hb : isPlainIdent b = true
  · -- both bare: each runs up to the first character no identifier goes on with
    simp only [ha, hb, if_true] at h
    obtain ⟨hab, hr⟩ := append_unique_of_all (identParts_of_isPlainIdent ha).2
      (identParts_of_isPlainIdent hb).2 h₁ h₂ h
    exact ⟨String.toList_injective hab, hr⟩
  · -- a bare name against a quoted one
    obtain ⟨x, xs, hxs, hx⟩ := plain_head ha
    simp only [ha, hb, if_true, Bool.false_eq_true, if_false, hxs, List.cons_append,
      List.cons.injEq] at h
    exact absurd h.1 hx
  · obtain ⟨x, xs, hxs, hx⟩ := plain_head hb
    simp only [ha, hb, if_true, Bool.false_eq_true, if_false, hxs, List.cons_append,
      List.cons.injEq] at h
    exact absurd h.1.symm hx
  · -- both quoted: the escapes decode up to the closing quote
    simp only [ha, hb, Bool.false_eq_true, if_false, List.cons_append, List.cons.injEq, true_and,
      List.append_assoc] at h
    obtain ⟨hab, hr⟩ := escaped_unique h
    exact ⟨String.toList_injective hab, hr⟩

/-- Names written one after another, each after its separator. -/
def writtenNames (first : String) (more : List (Char × String)) : List Char :=
  (quoteIdent first).toList ++ more.flatMap fun p => p.1 :: (quoteIdent p.2).toList

/-- The separators of a type's name. -/
def IsNameSeparator (c : Char) : Prop := c = '.' ∨ c = '/'

instance : DecidablePred IsNameSeparator := fun c => inferInstanceAs (Decidable (c = '.' ∨ c = '/'))

/-- What may follow a type's name: nothing, or a character that neither goes on an identifier
nor separates names. -/
def TypeNameEnds (r : List Char) : Prop :=
  ∀ x ∈ r.head?, isIdentPart x = false ∧ ¬ IsNameSeparator x

theorem nameEnds_separator {c : Char} (hc : IsNameSeparator c) (r : List Char) : NameEnds (c :: r) := by
  intro x hx
  cases hx
  rcases hc with rfl | rfl <;> decide

/-- Names written in turn with their separators read back in one way. -/
theorem writtenNames_unique {f₁ f₂ : String} {m₁ m₂ : List (Char × String)} {r₁ r₂ : List Char}
    (hm₁ : ∀ p ∈ m₁, IsNameSeparator p.1) (hm₂ : ∀ p ∈ m₂, IsNameSeparator p.1)
    (hr₁ : TypeNameEnds r₁) (hr₂ : TypeNameEnds r₂)
    (h : writtenNames f₁ m₁ ++ r₁ = writtenNames f₂ m₂ ++ r₂) : f₁ = f₂ ∧ m₁ = m₂ ∧ r₁ = r₂ := by
  have hends : ∀ {r : List Char}, TypeNameEnds r → NameEnds r := fun hr x hx => (hr x hx).1
  induction m₁ generalizing f₁ f₂ m₂ with
  | nil =>
    cases m₂ with
    | nil =>
      simp only [writtenNames, List.flatMap_nil, List.append_nil] at h
      obtain ⟨rfl, hr⟩ := quoteIdent_unique (hends hr₁) (hends hr₂) h
      exact ⟨rfl, rfl, hr⟩
    | cons q m₂ =>
      -- the right-hand side goes on with a separator where the left one has ended
      simp only [writtenNames, List.flatMap_nil, List.append_nil, List.flatMap_cons,
        List.append_assoc, List.cons_append] at h
      obtain ⟨-, hr⟩ := quoteIdent_unique (hends hr₁)
        (nameEnds_separator (hm₂ q List.mem_cons_self) _) h
      exact absurd (hm₂ q List.mem_cons_self) (hr₁ q.1 (by simp [hr])).2
  | cons p m₁ ih =>
    cases m₂ with
    | nil =>
      simp only [writtenNames, List.flatMap_nil, List.append_nil, List.flatMap_cons,
        List.append_assoc, List.cons_append] at h
      obtain ⟨-, hr⟩ := quoteIdent_unique (nameEnds_separator (hm₁ p List.mem_cons_self) _)
        (hends hr₂) h
      exact absurd (hm₁ p List.mem_cons_self) (hr₂ p.1 (by simp [← hr])).2
    | cons q m₂ =>
      simp only [writtenNames, List.flatMap_cons, List.append_assoc, List.cons_append] at h
      obtain ⟨rfl, hrest⟩ := quoteIdent_unique (nameEnds_separator (hm₁ p List.mem_cons_self) _)
        (nameEnds_separator (hm₂ q List.mem_cons_self) _) h
      simp only [List.cons.injEq] at hrest
      obtain ⟨hsep, hrest⟩ := hrest
      obtain ⟨hname, rfl, hr⟩ := @ih p.2 q.2 m₂ (fun p hp => hm₁ p (List.mem_cons_of_mem _ hp))
        (fun q hq => hm₂ q (List.mem_cons_of_mem _ hq))
        (by simpa [writtenNames, List.append_assoc] using hrest)
      exact ⟨rfl, by rw [Prod.ext hsep hname], hr⟩

/-! ### Type names -/

/-- A type's name as the writer writes it after the module's alias: the namespace and a dot
when there is one, then the enclosing types and the name joined by slashes. -/
def writtenTypeName (ns : String) (enclosing : List String) (name : String) : String :=
  (if ns = "" then "" else quoteDotted ns ++ ".") ++
    String.intercalate "/" ((enclosing ++ [name]).map quoteIdent)

/-- The parts of a type's name in the order they are written, each after its separator: the
namespace's dotted parts, a dot, then the enclosing types and the name after slashes. -/
def nameStream (ns : String) (enclosing : List String) (name : String) :
    String × List (Char × String) :=
  let path := enclosing ++ [name]
  match (if ns = "" then [] else splitOnChar '.' ns) with
  | [] => (path.headD "", path.tail.map fun p => ('/', p))
  | c :: cs => (c, cs.map (fun p => ('.', p)) ++ ('.', path.headD "") :: path.tail.map fun p => ('/', p))

/-- Reads the namespace, enclosing types and name back off the written parts: the parts before
the last dot are the namespace's. -/
def readNameStream (first : String) (more : List (Char × String)) : String × List String × String :=
  let dots := (more.takeWhile fun p => p.1 == '.').length
  let parts := first :: more.map Prod.snd
  let path := parts.drop dots
  (String.intercalate "." (parts.take dots), path.dropLast, path.getLastD "")

/-- Names joined by a one-character separator are the names written in turn after it. -/
theorem toList_intercalate_quoteIdent {sep : String} {c : Char} (hsep : sep.toList = [c]) :
    ∀ (x : String) (xs : List String),
      (String.intercalate sep ((x :: xs).map quoteIdent)).toList = writtenNames x (xs.map fun p => (c, p))
  | x, [] => by simp [writtenNames]
  | x, y :: ys => by
    rw [List.map_cons, List.map_cons, String.intercalate_cons_cons, String.toList_append,
      String.toList_append, hsep, ← List.map_cons, toList_intercalate_quoteIdent hsep y ys]
    simp [writtenNames]

theorem splitOnChar_ne_nil (c : Char) (s : String) : splitOnChar c s ≠ [] := by
  simp [splitOnChar, List.splitOn_ne_nil]

theorem toList_writtenTypeName (ns : String) (enclosing : List String) (name : String) :
    (writtenTypeName ns enclosing name).toList =
      writtenNames (nameStream ns enclosing name).1 (nameStream ns enclosing name).2 := by
  obtain ⟨p, ps, hpath⟩ := List.exists_cons_of_ne_nil (by simp : enclosing ++ [name] ≠ [])
  have hslash := @toList_intercalate_quoteIdent "/" '/' rfl p ps
  by_cases hns : ns = ""
  · simp only [writtenTypeName, nameStream, hns, if_true, String.empty_append, hpath, hslash,
      List.headD_cons, List.tail_cons]
  · -- the namespace's parts come first, each after a dot, and a dot ends them
    obtain ⟨q, qs, hparts⟩ := List.exists_cons_of_ne_nil (splitOnChar_ne_nil '.' ns)
    have hdot := @toList_intercalate_quoteIdent "." '.' rfl q qs
    simp only [writtenTypeName, nameStream, quoteDotted, hns, if_false, hpath, hparts,
      String.toList_append, hslash, hdot, List.headD_cons, List.tail_cons]
    simp [writtenNames]

theorem readNameStream_nameStream (ns : String) (enclosing : List String) (name : String) :
    readNameStream (nameStream ns enclosing name).1 (nameStream ns enclosing name).2 =
      (ns, enclosing, name) := by
  obtain ⟨p, ps, hpath⟩ := List.exists_cons_of_ne_nil (by simp : enclosing ++ [name] ≠ [])
  have hdrop : (p :: ps).dropLast = enclosing := by rw [← hpath, List.dropLast_concat]
  have hlast : (p :: ps).getLast?.getD "" = name := by
    rw [← hpath]
    simp
  -- the parts after slashes hold no dot
  have hslashes : ((ps.map fun p => ('/', p)).takeWhile fun q => q.1 == '.') = [] := by
    cases ps <;> simp
  by_cases hns : ns = ""
  · simp [readNameStream, nameStream, hns, hpath, hslashes, Function.comp_def, hdrop, hlast]
  · obtain ⟨q, qs, hparts⟩ := List.exists_cons_of_ne_nil (splitOnChar_ne_nil '.' ns)
    have hdots : ((qs.map (fun p => ('.', p)) ++ ('.', p) :: ps.map fun p => ('/', p)).takeWhile
        fun q => q.1 == '.') = qs.map (fun p => ('.', p)) ++ [('.', p)] := by
      rw [List.takeWhile_append_of_pos (by simp)]
      simp [hslashes]
    have hns' : String.intercalate "." (q :: qs) = ns := by
      rw [← hparts]
      exact intercalate_splitOnChar '.' ns
    simp [readNameStream, nameStream, hns, hpath, hparts, hdots, Function.comp_def, hdrop, hlast,
      hns', List.take_left', List.drop_left']

theorem nameStream_separators (ns : String) (enclosing : List String) (name : String) :
    ∀ p ∈ (nameStream ns enclosing name).2, IsNameSeparator p.1 := by
  unfold nameStream
  split
  · intro p hp
    obtain ⟨x, -, rfl⟩ := List.mem_map.1 hp
    exact .inr rfl
  · intro p hp
    simp only [List.mem_append, List.mem_map, List.mem_cons] at hp
    rcases hp with ⟨_, _, rfl⟩ | rfl | ⟨_, _, rfl⟩ <;> simp [IsNameSeparator]

/-- A type's name as written, followed by nothing or by a character that neither goes on an
identifier nor separates names, gives back its namespace, enclosing types and name. -/
theorem writtenTypeName_unique {ns₁ ns₂ name₁ name₂ : String} {enc₁ enc₂ : List String}
    {r₁ r₂ : List Char} (hr₁ : TypeNameEnds r₁) (hr₂ : TypeNameEnds r₂)
    (h : (writtenTypeName ns₁ enc₁ name₁).toList ++ r₁ = (writtenTypeName ns₂ enc₂ name₂).toList ++ r₂) :
    ns₁ = ns₂ ∧ enc₁ = enc₂ ∧ name₁ = name₂ ∧ r₁ = r₂ := by
  rw [toList_writtenTypeName, toList_writtenTypeName] at h
  obtain ⟨hfirst, hmore, hr⟩ := writtenNames_unique (nameStream_separators _ _ _)
    (nameStream_separators _ _ _) hr₁ hr₂ h
  -- the written parts are the same, so what they read back as is
  have hread := congrArg (fun st => readNameStream st.1 st.2)
    (Prod.ext hfirst hmore : nameStream ns₁ enc₁ name₁ = nameStream ns₂ enc₂ name₂)
  simp only [readNameStream_nameStream, Prod.mk.injEq] at hread
  exact ⟨hread.1, hread.2.1, hread.2.2, hr⟩

end NativeExports.Assembler

import Mathlib
import NativeExports.Path
/-!
Purpose: what cleaning does to a path joined from a directory and plain parts.

A path's parts are the pieces between its slashes (`Path.parts`); cleaning folds them onto a
reversed list (`Path.cleanParts`) and writes the result back with slashes.  A part is plain
(`Path.Plain`) when it is neither empty, nor `.`, nor `..`, and has no slash, and cleaning keeps
plain parts as they are.  What cleaning leaves is `Tidy`: some `..` parts (none below the root)
and then plain parts, and cleaning a tidy path again changes nothing (`Path.cleaned_clean`).

So a path joined from a directory and plain parts cleans to the directory's cleaned parts
followed by those parts (`Path.cleaned_join`), its directory cleans to the same parts without the
last (`Path.cleaned_dir`), and two such paths clean to one text only when their cleaned parts are
the same (`Path.cleaned_eq_of_clean_eq`).
-/

namespace NativeExports

/-! ### Pieces of a text -/

/-- No piece of a split list holds an element it was split at. -/
theorem mem_splitOnP_piece {α : Type} {p : α → Bool} :
    ∀ {xs piece : List α}, piece ∈ xs.splitOnP p → ∀ y ∈ piece, p y = false
  | [], piece, h => by
    simp only [List.splitOnP_nil, List.mem_singleton] at h
    subst h
    simp
  | x :: xs, piece, h => by
    obtain ⟨first, others, hsplit⟩ : ∃ first others, xs.splitOnP p = first :: others :=
      List.exists_cons_of_ne_nil (List.splitOnP_ne_nil p xs)
    rw [List.splitOnP_cons_eq_if_modifyHead] at h
    split at h
    · rcases List.mem_cons.1 h with rfl | h
      · simp
      · exact mem_splitOnP_piece h
    · rename_i hx
      rw [hsplit, List.modifyHead_cons] at h
      rcases List.mem_cons.1 h with rfl | h
      · intro y hy
        rcases List.mem_cons.1 hy with rfl | hy
        · simpa using hx
        · exact mem_splitOnP_piece (hsplit ▸ List.mem_cons_self) y hy
      · exact mem_splitOnP_piece (hsplit ▸ List.mem_cons_of_mem _ h)

/-- No piece of a text split at a character holds that character. -/
theorem not_mem_splitOnChar {c : Char} {s piece : String} (h : piece ∈ Text.splitOnChar c s) :
    c ∉ piece.toList := by
  rw [Text.splitOnChar, List.mem_map] at h
  obtain ⟨l, hl, rfl⟩ := h
  intro hc
  have hfalse := mem_splitOnP_piece hl c (by simpa using hc)
  simp at hfalse

/-- Pieces without the separator, joined by it, split back into themselves. -/
theorem splitOnChar_intercalate {c : Char} {parts : List String}
    (hparts : ∀ part ∈ parts, c ∉ part.toList) (hne : parts ≠ []) :
    Text.splitOnChar c (String.intercalate (String.singleton c) parts) = parts := by
  have hlists : ∀ l ∈ parts.map String.toList, c ∉ l := by
    simp only [List.mem_map]
    rintro l ⟨part, hpart, rfl⟩
    exact hparts part hpart
  rw [Text.splitOnChar, String.toList_intercalate, String.toList_singleton,
    List.splitOn_intercalate c hlists (by simpa using hne)]
  simp

/-- Joining two non-empty lists of pieces puts the separator between their joins. -/
theorem intercalate_append {α : Type} (sep : List α) :
    ∀ {l₁ l₂ : List (List α)}, l₁ ≠ [] → l₂ ≠ [] →
      sep.intercalate (l₁ ++ l₂) = sep.intercalate l₁ ++ sep ++ sep.intercalate l₂
  | [x], y :: ys, _, _ => by simp [List.intercalate_cons_cons]
  | x :: x' :: xs, l₂, _, h₂ => by
    rw [List.cons_append, List.cons_append, List.intercalate_cons_cons,
      ← List.cons_append, intercalate_append sep (List.cons_ne_nil _ _) h₂,
      List.intercalate_cons_cons]
    simp

/-- Splitting at a character and joining with it gives the text back. -/
theorem intercalate_splitOnChar (c : Char) (s : String) :
    String.intercalate (String.singleton c) (Text.splitOnChar c s) = s := by
  apply String.toList_injective
  rw [String.toList_intercalate, String.toList_singleton, Text.splitOnChar, List.map_map]
  simp [List.intercalate_splitOn]

/-- Every character of a joined text is a separator's or a part's. -/
theorem forall_mem_intercalate {p : Char → Prop} {sep : String} (hsep : ∀ x ∈ sep.toList, p x) :
    ∀ {parts : List String}, (∀ part ∈ parts, ∀ x ∈ part.toList, p x) →
      ∀ x ∈ (String.intercalate sep parts).toList, p x
  | [], _ => by simp
  | [a], h => by simpa using h a (by simp)
  | a :: b :: l, h => by
    rw [String.intercalate_cons_cons]
    intro x hx
    simp only [String.toList_append, List.mem_append] at hx
    rcases hx with (hx | hx) | hx
    · exact h a (by simp) x hx
    · exact hsep x hx
    · exact forall_mem_intercalate hsep (fun part hpart => h part (by simp_all)) x hx

namespace Path

/-! ### Cleaning part by part -/

/-- A part that cleaning keeps as it is. -/
def Plain (part : String) : Prop :=
  part ≠ "" ∧ part ≠ "." ∧ part ≠ ".." ∧ '/' ∉ part.toList

/-- The parts a path cleans to, in order. -/
def cleaned (p : String) : List String := (cleanParts (isAbs p) [] (parts p)).reverse

/-- A path written from whether it starts at the root and its parts. -/
def render (rooted : Bool) (ps : List String) : String :=
  let body := String.intercalate "/" ps
  if rooted then "/" ++ body else if body = "" then "." else body

theorem clean_eq_render (p : String) : clean p = render (isAbs p) (cleaned p) := rfl

theorem cleanParts_append (r : Bool) (acc xs ys : List String) :
    cleanParts r acc (xs ++ ys) = cleanParts r (cleanParts r acc xs) ys := by
  fun_induction cleanParts r acc xs with
  | case1 => rfl
  | case2 acc rest ih => rw [List.cons_append, cleanParts.eq_2, ih]
  | case3 acc rest ih => rw [List.cons_append, cleanParts.eq_3, ih]
  | case4 rest tail ih => rw [List.cons_append, cleanParts.eq_4, ih]
  | case5 rest head up hhead ih => rw [List.cons_append, cleanParts.eq_5 _ _ _ _ hhead, ih]
  | case6 rest hr ih => rw [List.cons_append, cleanParts.eq_6, if_pos hr, ih]
  | case7 rest hr ih => rw [List.cons_append, cleanParts.eq_6, if_neg hr, ih]
  | case8 acc p rest h₁ h₂ h₃ ih => rw [List.cons_append, cleanParts.eq_7 _ _ _ _ h₁ h₂ h₃, ih]

/-- Cleaning pushes plain parts as they come. -/
theorem cleanParts_plain (r : Bool) :
    ∀ (acc cs : List String), (∀ c ∈ cs, Plain c) → cleanParts r acc cs = cs.reverse ++ acc
  | acc, [], _ => rfl
  | acc, c :: cs, h => by
    obtain ⟨h₁, h₂, h₃, -⟩ := h c List.mem_cons_self
    rw [cleanParts.eq_7 _ _ _ _ h₁ h₂ h₃,
      cleanParts_plain r (c :: acc) cs fun c' hc' => h c' (List.mem_cons_of_mem _ hc')]
    simp

/-- A path's parts around a slash are the parts before it and the parts after it. -/
theorem parts_append_slash (a b : String) : parts (a ++ "/" ++ b) = parts a ++ parts b := by
  have hfree : ∀ l ∈ a.toList.splitOn '/' ++ b.toList.splitOn '/', '/' ∉ l := by
    intro l hl hc
    rw [List.splitOn_eq_splitOnP] at hl
    rcases List.mem_append.1 hl with hl | hl <;>
      simpa using mem_splitOnP_piece hl '/' hc
  have hjoin : a.toList ++ '/' :: b.toList =
      ['/'].intercalate (a.toList.splitOn '/' ++ b.toList.splitOn '/') := by
    rw [intercalate_append _ (by simp [List.splitOn_eq_splitOnP, List.splitOnP_ne_nil])
      (by simp [List.splitOn_eq_splitOnP, List.splitOnP_ne_nil]),
      List.intercalate_splitOn, List.intercalate_splitOn]
    simp
  simp only [parts, Text.splitOnChar, String.toList_append]
  rw [show String.toList "/" = ['/'] from rfl, List.append_assoc, List.singleton_append, hjoin,
    List.splitOn_intercalate '/' hfree (by simp [List.splitOn_eq_splitOnP, List.splitOnP_ne_nil]),
    List.map_append]

/-- A part that has no slash is its own single part. -/
theorem parts_of_no_slash {c : String} (h : '/' ∉ c.toList) : parts c = [c] := by
  have := @splitOnChar_intercalate '/' [c] (by simpa using h) (by simp)
  rw [String.intercalate_singleton] at this
  exact this

/-- Plain parts joined with slashes split back into themselves. -/
theorem parts_intercalate {cs : List String} (hcs : ∀ c ∈ cs, Plain c) (hne : cs ≠ []) :
    parts (String.intercalate "/" cs) = cs :=
  splitOnChar_intercalate (fun c hc => (hcs c hc).2.2.2) hne

theorem isAbs_append_of_ne {a : String} (b : String) (ha : a ≠ "") : isAbs (a ++ b) = isAbs a := by
  have hne : a.toList ≠ [] := by simpa using ha
  obtain ⟨x, xs, hx⟩ := List.exists_cons_of_ne_nil hne
  simp [isAbs, hx]

/-! ### Tidy parts -/

/-- A cleaning accumulator as cleaning leaves it: plain parts on top of `..` parts, and no
`..` part below the root. -/
def Heaped (rooted : Bool) (acc : List String) : Prop :=
  ∃ k qs, acc = qs ++ List.replicate k ".." ∧ (∀ q ∈ qs, Plain q) ∧ (rooted = true → k = 0)

/-- Parts as cleaning leaves them, in order. -/
def Tidy (rooted : Bool) (ps : List String) : Prop := Heaped rooted ps.reverse

theorem heaped_nil (r : Bool) : Heaped r [] := ⟨0, [], rfl, by simp, fun _ => rfl⟩

/-- Cleaning keeps its accumulator heaped, each part it pushes being plain. -/
theorem heaped_cleanParts (r : Bool) (acc xs : List String) (hxs : ∀ x ∈ xs, '/' ∉ x.toList)
    (hacc : Heaped r acc) : Heaped r (cleanParts r acc xs) := by
  fun_induction cleanParts r acc xs with
  | case1 => exact hacc
  | case2 acc rest ih | case3 acc rest ih =>
    exact ih (fun x hx => hxs x (List.mem_cons_of_mem _ hx)) hacc
  | case4 rest tail ih =>
    refine ih (fun x hx => hxs x (List.mem_cons_of_mem _ hx)) ?_
    obtain ⟨k, qs, hacc, hqs, hk⟩ := hacc
    cases qs with
    | nil =>
      -- a `..` on top means there are no plain parts
      refine ⟨k + 1, [], ?_, by simp, fun hr => ?_⟩
      · simp only [List.nil_append] at hacc ⊢
        rw [List.replicate_succ, ← hacc]
      · have := hk hr
        subst this
        cases hacc
    | cons q qs =>
      cases hacc
      exact absurd rfl (hqs ".." List.mem_cons_self).2.2.1
  | case5 rest head up hhead ih =>
    refine ih (fun x hx => hxs x (List.mem_cons_of_mem _ hx)) ?_
    obtain ⟨k, qs, hacc, hqs, hk⟩ := hacc
    cases qs with
    | nil =>
      cases k with
      | zero => cases hacc
      | succ k =>
        cases hacc
        exact absurd rfl hhead
    | cons q qs =>
      cases hacc
      exact ⟨k, qs, rfl, fun q' hq' => hqs q' (List.mem_cons_of_mem _ hq'), hk⟩
  | case6 rest hr ih => exact ih (fun x hx => hxs x (List.mem_cons_of_mem _ hx)) hacc
  | case7 rest hr ih =>
    exact ih (fun x hx => hxs x (List.mem_cons_of_mem _ hx))
      ⟨1, [], rfl, by simp, fun h => absurd h hr⟩
  | case8 acc p rest h₁ h₂ h₃ ih =>
    refine ih (fun x hx => hxs x (List.mem_cons_of_mem _ hx)) ?_
    obtain ⟨k, qs, hacc, hqs, hk⟩ := hacc
    refine ⟨k, p :: qs, by rw [hacc]; rfl, fun q hq => ?_, hk⟩
    rcases List.mem_cons.1 hq with rfl | hq
    · exact ⟨h₁, h₂, h₃, hxs q List.mem_cons_self⟩
    · exact hqs q hq

theorem tidy_cleaned (p : String) : Tidy (isAbs p) (cleaned p) := by
  unfold Tidy cleaned
  rw [List.reverse_reverse]
  exact heaped_cleanParts _ [] _ (fun x hx => not_mem_splitOnChar hx) (heaped_nil _)

/-- Cleaning leaves `..` parts where no part is left to remove. -/
theorem cleanParts_dots (j : Nat) : ∀ k : Nat,
    cleanParts false (List.replicate j "..") (List.replicate k "..") = List.replicate (j + k) ".."
  | 0 => rfl
  | k + 1 => by
    rw [List.replicate_succ]
    cases j with
    | zero =>
      rw [List.replicate_zero, cleanParts.eq_6, if_neg (by simp),
        show [".."] = List.replicate 1 ".." from rfl, cleanParts_dots 1 k]
      congr 1
      omega
    | succ j =>
      rw [List.replicate_succ, cleanParts.eq_4, ← List.replicate_succ, ← List.replicate_succ,
        cleanParts_dots (j + 2) k]
      congr 1
      omega

theorem Tidy.parts_ne {r : Bool} {ps : List String} (h : Tidy r ps) :
    ∀ p ∈ ps, p ≠ "" ∧ '/' ∉ p.toList := by
  obtain ⟨k, qs, hps, hqs, -⟩ := h
  intro p hp
  rw [← List.mem_reverse, hps] at hp
  rcases List.mem_append.1 hp with hp | hp
  · exact ⟨(hqs p hp).1, (hqs p hp).2.2.2⟩
  · rw [List.eq_of_mem_replicate hp]
    simp

/-- A tidy list without its plain last part is tidy. -/
theorem Tidy.dropLast {r : Bool} {ps : List String} {x : String} (h : Tidy r (ps ++ [x]))
    (hx : Plain x) : Tidy r ps := by
  obtain ⟨k, qs, hps, hqs, hk⟩ := h
  rw [List.reverse_append, List.reverse_singleton, List.singleton_append] at hps
  cases qs with
  | nil =>
    cases k with
    | zero => simp at hps
    | succ k =>
      rw [List.nil_append, List.replicate_succ] at hps
      exact absurd (List.cons.inj hps).1 hx.2.2.1
  | cons q qs =>
    obtain ⟨-, htail⟩ := List.cons.inj hps
    exact ⟨k, qs, htail, fun q' hq' => hqs q' (List.mem_cons_of_mem _ hq'), hk⟩

/-- Cleaning tidy parts again changes nothing. -/
theorem cleanParts_tidy {r : Bool} {ps : List String} (h : Tidy r ps) :
    cleanParts r [] ps = ps.reverse := by
  obtain ⟨k, qs, hps, hqs, hk⟩ := h
  have hps' : ps = List.replicate k ".." ++ qs.reverse := by
    rw [← List.reverse_reverse ps, hps]
    simp
  have hdots : cleanParts r [] (List.replicate k "..") = List.replicate k ".." := by
    cases r with
    | true => rw [hk rfl]; rfl
    | false => simpa using cleanParts_dots 0 k
  rw [hps', cleanParts_append, hdots,
    cleanParts_plain r _ _ fun q hq => hqs q (List.mem_reverse.1 hq)]
  simp

/-- Joining ends with the last part after a separator. -/
theorem intercalate_concat {ps : List String} (x : String) (hps : ps ≠ []) :
    String.intercalate "/" (ps ++ [x]) = String.intercalate "/" ps ++ "/" ++ x := by
  apply String.toList_injective
  simp only [String.toList_intercalate, String.toList_append, List.map_append, List.map_cons,
    List.map_nil]
  rw [intercalate_append _ (by simpa using hps) (by simp)]
  simp

theorem intercalate_ne_empty {p : String} (ps : List String) (hp : p ≠ "") :
    String.intercalate "/" (p :: ps) ≠ "" := by
  cases ps with
  | nil => simpa using hp
  | cons q ps =>
    rw [String.intercalate_cons_cons]
    intro h
    exact hp (by simpa using congrArg String.toList h)

/-- Tidy parts written out clean back to themselves, as rooted as they were written. -/
theorem cleaned_render {r : Bool} {ps : List String} (h : Tidy r ps) :
    cleaned (render r ps) = ps ∧ isAbs (render r ps) = r := by
  have hfree := h.parts_ne
  have hparts : ps ≠ [] → parts (String.intercalate "/" ps) = ps := fun hne =>
    splitOnChar_intercalate (fun p hp => (hfree p hp).2) hne
  have hempty : parts "" = [""] := parts_of_no_slash (by simp)
  cases r with
  | true =>
    have habs : isAbs ("/" ++ String.intercalate "/" ps) = true := by simp [isAbs]
    refine ⟨?_, by simpa [render] using habs⟩
    simp only [render, if_true, cleaned, habs]
    rcases ps with _ | ⟨p, ps'⟩
    · rw [show "/" ++ String.intercalate "/" [] = "" ++ "/" ++ "" from rfl, parts_append_slash,
        hempty]
      rfl
    · have hne : p :: ps' ≠ [] := List.cons_ne_nil _ _
      rw [show "/" ++ String.intercalate "/" (p :: ps') =
          "" ++ "/" ++ String.intercalate "/" (p :: ps') by simp,
        parts_append_slash, hempty, hparts hne, List.singleton_append, cleanParts.eq_2,
        cleanParts_tidy h, List.reverse_reverse]
  | false =>
    rcases ps with _ | ⟨p, ps'⟩
    · refine ⟨?_, by simp [render, isAbs]⟩
      simp only [render, cleaned]
      rw [parts_of_no_slash (by simp)]
      rfl
    · have hne : p :: ps' ≠ [] := List.cons_ne_nil _ _
      have hbody := intercalate_ne_empty ps' (hfree p List.mem_cons_self).1
      have habs : isAbs (String.intercalate "/" (p :: ps')) = false := by
        obtain ⟨c, cs, hc⟩ := List.exists_cons_of_ne_nil
          (show p.toList ≠ [] by simpa using (hfree p List.mem_cons_self).1)
        have hslash : c ≠ '/' := fun hcs =>
          (hfree p List.mem_cons_self).2 (by simp [hc, hcs])
        cases ps' with
        | nil => simp [isAbs, hc, hslash]
        | cons q qs => simp [isAbs, String.intercalate_cons_cons, hc, hslash]
      simp only [render, Bool.false_eq_true, if_false, if_neg hbody]
      refine ⟨?_, habs⟩
      simp only [cleaned, habs]
      rw [hparts hne, cleanParts_tidy h, List.reverse_reverse]

theorem cleaned_clean (p : String) : cleaned (clean p) = cleaned p :=
  (cleaned_render (tidy_cleaned p)).1

theorem isAbs_clean (p : String) : isAbs (clean p) = isAbs p :=
  (cleaned_render (tidy_cleaned p)).2

/-- Two paths that clean to one text have the same cleaned parts. -/
theorem cleaned_eq_of_clean_eq {p q : String} (h : clean p = clean q) : cleaned p = cleaned q := by
  rw [← cleaned_clean p, h, cleaned_clean]

/-! ### Joined paths -/

theorem tidy_of_plain (r : Bool) {cs : List String} (hcs : ∀ c ∈ cs, Plain c) : Tidy r cs :=
  ⟨0, cs.reverse, by simp, fun c hc => hcs c (List.mem_reverse.1 hc), fun _ => rfl⟩

theorem render_plain {cs : List String} (hcs : ∀ c ∈ cs, Plain c) (hne : cs ≠ []) :
    render false cs = String.intercalate "/" cs := by
  obtain ⟨c, cs', rfl⟩ := List.exists_cons_of_ne_nil hne
  simp [render, intercalate_ne_empty cs' (hcs c List.mem_cons_self).1]

/-- Plain parts joined with slashes are already clean. -/
theorem clean_intercalate_plain {cs : List String} (hcs : ∀ c ∈ cs, Plain c) (hne : cs ≠ []) :
    clean (String.intercalate "/" cs) = String.intercalate "/" cs := by
  obtain ⟨hcl, habs⟩ := cleaned_render (tidy_of_plain false hcs)
  rw [render_plain hcs hne] at hcl habs
  rw [clean_eq_render, hcl, habs, render_plain hcs hne]

theorem filter_plain {cs : List String} (hcs : ∀ c ∈ cs, Plain c) : cs.filter (· ≠ "") = cs :=
  List.filter_eq_self.2 fun c hc => by simpa using (hcs c hc).1

/-- Joining plain parts writes them with slashes between. -/
theorem join_plain {cs : List String} (hcs : ∀ c ∈ cs, Plain c) (hne : cs ≠ []) :
    join cs = String.intercalate "/" cs := by
  obtain ⟨c, cs', rfl⟩ := List.exists_cons_of_ne_nil hne
  simp only [join, filter_plain hcs]
  exact clean_intercalate_plain hcs hne

theorem cleaned_empty : cleaned "" = [] := by
  simp only [cleaned]
  rw [parts_of_no_slash (by simp)]
  rfl

/-- Joining an empty directory with plain parts leaves it out. -/
theorem join_empty_cons {cs : List String} (hcs : ∀ c ∈ cs, Plain c) (hne : cs ≠ []) :
    join ("" :: cs) = String.intercalate "/" cs := by
  obtain ⟨c, cs', rfl⟩ := List.exists_cons_of_ne_nil hne
  have hkeep : ("" :: c :: cs').filter (· ≠ "") = c :: cs' := by
    rw [List.filter_cons_of_neg (by simp), filter_plain hcs]
  simp only [join, hkeep]
  exact clean_intercalate_plain hcs hne

/-- Joining a directory with plain parts cleans the directory, a slash and the parts. -/
theorem join_cons_of_ne {d : String} {cs : List String} (hd : d ≠ "") (hcs : ∀ c ∈ cs, Plain c)
    (hne : cs ≠ []) : join (d :: cs) = clean (d ++ "/" ++ String.intercalate "/" cs) := by
  obtain ⟨c, cs', rfl⟩ := List.exists_cons_of_ne_nil hne
  have hkeep : (d :: c :: cs').filter (· ≠ "") = d :: c :: cs' := by
    rw [List.filter_cons_of_pos (by simpa using hd), filter_plain hcs]
  simp only [join, hkeep]
  rw [String.intercalate_cons_cons]

/-- A directory joined with plain parts cleans to the directory's cleaned parts followed by
those parts, as rooted as the directory. -/
theorem cleaned_join (d : String) {cs : List String} (hcs : ∀ c ∈ cs, Plain c) (hne : cs ≠ []) :
    cleaned (join (d :: cs)) = cleaned d ++ cs ∧ isAbs (join (d :: cs)) = isAbs d := by
  by_cases hd : d = ""
  · -- an empty directory is left out
    subst hd
    obtain ⟨hcl, habs⟩ := cleaned_render (tidy_of_plain false hcs)
    rw [render_plain hcs hne] at hcl habs
    rw [join_empty_cons hcs hne, hcl, habs, cleaned_empty]
    exact ⟨rfl, rfl⟩
  · have habs : isAbs (d ++ "/" ++ String.intercalate "/" cs) = isAbs d := by
      rw [isAbs_append_of_ne _ (by simp), isAbs_append_of_ne _ hd]
    rw [join_cons_of_ne hd hcs hne, cleaned_clean, isAbs_clean]
    refine ⟨?_, habs⟩
    simp only [cleaned, habs]
    rw [parts_append_slash, parts_intercalate hcs hne, cleanParts_append,
      cleanParts_plain _ _ _ hcs]
    simp

/-- Joining a directory with plain parts written out is joining it with the parts. -/
theorem join_pair_intercalate (d : String) {cs : List String} (hcs : ∀ c ∈ cs, Plain c)
    (hne : cs ≠ []) : join [d, String.intercalate "/" cs] = join (d :: cs) := by
  obtain ⟨c, cs', rfl⟩ := List.exists_cons_of_ne_nil hne
  -- the written-out parts are one plain-free but non-empty part
  have hbody : String.intercalate "/" (c :: cs') ≠ "" :=
    intercalate_ne_empty cs' (hcs c List.mem_cons_self).1
  by_cases hd : d = ""
  · subst hd
    have hkeep : ["", String.intercalate "/" (c :: cs')].filter (· ≠ "") =
        [String.intercalate "/" (c :: cs')] := by simp [hbody]
    rw [join_empty_cons hcs hne]
    simp only [join, hkeep]
    rw [String.intercalate_singleton, clean_intercalate_plain hcs hne]
  · have hkeep : [d, String.intercalate "/" (c :: cs')].filter (· ≠ "") =
        [d, String.intercalate "/" (c :: cs')] := by simp [hbody, hd]
    rw [join_cons_of_ne hd hcs hne]
    simp only [join, hkeep]
    rw [String.intercalate_cons_cons, String.intercalate_singleton]

/-- A directory joined with plain parts is written from its cleaned parts. -/
theorem join_eq_render (d : String) {cs : List String} (hcs : ∀ c ∈ cs, Plain c)
    (hne : cs ≠ []) :
    join (d :: cs) = render (isAbs (join (d :: cs))) (cleaned (join (d :: cs))) := by
  by_cases hd : d = ""
  · subst hd
    obtain ⟨hcl, habs⟩ := cleaned_render (tidy_of_plain false hcs)
    rw [render_plain hcs hne] at hcl habs
    rw [join_empty_cons hcs hne, hcl, habs, render_plain hcs hne]
  · rw [join_cons_of_ne hd hcs hne, cleaned_clean, isAbs_clean]
    exact clean_eq_render _

/-- The text before the last slash of a path that ends in a plain part. -/
theorem dir_append_slash (pre x : String) (hx : '/' ∉ x.toList) :
    dir (pre ++ "/" ++ x) = clean (pre ++ "/") := by
  have hdrop : (x.toList.reverse ++ '/' :: pre.toList.reverse).dropWhile (· ≠ '/') =
      '/' :: pre.toList.reverse := by
    rw [List.dropWhile_append_of_pos, List.dropWhile_cons_of_neg (by simp)]
    intro c hc
    simpa using fun h : c = '/' => hx (h ▸ List.mem_reverse.1 hc)
  simp only [dir, String.toList_append, List.reverse_append, List.append_assoc]
  rw [show String.toList "/" = ['/'] from rfl, List.reverse_singleton, List.singleton_append,
    hdrop, List.reverse_cons]
  congr 1
  apply String.toList_injective
  simp

/-- The directory of a path that ends in a plain part cleans to the path's other parts. -/
theorem cleaned_dir {r : Bool} {ps : List String} {x : String} (h : Tidy r (ps ++ [x]))
    (hx : Plain x) (hroot : r = true ∨ ps ≠ []) :
    cleaned (dir (render r (ps ++ [x]))) = ps ∧ isAbs (dir (render r (ps ++ [x]))) = r := by
  have hps : Tidy r ps := h.dropLast hx
  have hempty : parts "" = [""] := parts_of_no_slash (by simp)
  have hslash : ∀ pre : String, parts (pre ++ "/") = parts pre ++ [""] := fun pre => by
    have h := parts_append_slash pre ""
    rwa [hempty, String.append_empty] at h
  rcases ps with _ | ⟨p, ps'⟩
  · -- a path of one part below the root has the root as directory
    have hr : r = true := by simpa using hroot
    subst hr
    have hsplit : render true ([] ++ [x]) = "" ++ "/" ++ x := by simp [render]
    rw [hsplit, dir_append_slash _ _ hx.2.2.2, cleaned_clean, isAbs_clean]
    simp only [cleaned, String.empty_append]
    refine ⟨?_, by simp [isAbs]⟩
    rw [show (isAbs "/") = true by simp [isAbs],
      show "/" = "" ++ "/" from rfl, hslash, hempty]
    rfl
  · have hne : p :: ps' ≠ [] := List.cons_ne_nil _ _
    have hpre : render r (p :: ps') ≠ "" := by
      cases r
      · simp only [render, Bool.false_eq_true, if_false]
        split <;> simp_all [intercalate_ne_empty ps' (hps.parts_ne p List.mem_cons_self).1]
      · simp [render]
    have hsplit : render r ((p :: ps') ++ [x]) = render r (p :: ps') ++ "/" ++ x := by
      have hbody := intercalate_ne_empty ps' (hps.parts_ne p List.mem_cons_self).1
      have hbody' := intercalate_ne_empty (ps' ++ [x]) (hps.parts_ne p List.mem_cons_self).1
      rw [← List.cons_append] at hbody'
      cases r
      · have hlong : String.intercalate "/" (p :: ps') ++ "/" ++ x ≠ "" := by
          rwa [intercalate_concat x hne] at hbody'
        simp only [render, Bool.false_eq_true, if_false, intercalate_concat x hne, if_neg hbody,
          if_neg hlong]
      · simp only [render, if_true, intercalate_concat x hne, String.append_assoc]
    obtain ⟨hcl, habs⟩ := cleaned_render hps
    rw [hsplit, dir_append_slash _ _ hx.2.2.2, cleaned_clean, isAbs_clean,
      isAbs_append_of_ne _ hpre, habs]
    refine ⟨?_, rfl⟩
    simp only [cleaned]
    rw [isAbs_append_of_ne _ hpre, habs, hslash, cleanParts_append, cleanParts.eq_2,
      cleanParts.eq_1]
    simpa [cleaned, habs] using hcl

/-- The directory of a directory joined with plain parts cleans to the directory's cleaned
parts followed by all the parts but the last. -/
theorem cleaned_dir_join (d : String) {cs : List String} {x : String}
    (hcs : ∀ c ∈ cs, Plain c) (hne : cs ≠ []) (hx : Plain x) :
    cleaned (dir (join (d :: (cs ++ [x])))) = cleaned d ++ cs := by
  have hall : ∀ c ∈ cs ++ [x], Plain c := by
    intro c hc
    rcases List.mem_append.1 hc with hc | hc
    · exact hcs c hc
    · rw [List.mem_singleton.1 hc]
      exact hx
  have hjoin := (cleaned_join d hall (by simp)).1
  have htidy := tidy_cleaned (join (d :: (cs ++ [x])))
  rw [join_eq_render d hall (by simp)]
  rw [hjoin, ← List.append_assoc] at htidy ⊢
  exact (cleaned_dir htidy hx (.inr (by simp [hne]))).1

end Path

end NativeExports

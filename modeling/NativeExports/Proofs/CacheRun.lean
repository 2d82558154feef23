import Mathlib
import NativeExports.Proofs.CacheIndexing
import NativeExports.Proofs.WorkspaceFrame
import NativeExports.Proofs.PathCleaning
/-!
Purpose: what a module cache holds after any run of puts.

A put writes the image to the file of its identity, `gac/N/V_T/N.dll` below the cache, through
a temporary file beside it, then rewrites the index `gac/index.mp` through a temporary file
beside that.  The file of an identity is named by its name, version and token only, while the
index is keyed by the whole identity key, culture included.  So the index tracks every identity
put (`CacheIndex.Tracks`), but the file of an entry holds the image put last to that file, which
may carry another culture than the entry.

The paths of a put are told apart by their cleaned parts (`Path.cleaned`): below the cache
directory, the image's file and its temporary file have four parts and differ in the last, the
index and its temporary file have two.  Then the frame lemmas of the workspace give what one put
keeps (`Keeps.put`), and induction over the run gives the main result,
`puts_keep_index_and_files`.

Two images of one module in two cultures share one file.  After `A 1.0.0.0` of culture `de` and
then of the neutral culture are put, the index has an entry for each, and a lookup of the `de`
one gives the file that holds the neutral image (`lookup_of_culture_reads_neutral_image`).
-/

namespace NativeExports

open Workspace

namespace ModuleCache

/-- The directory of an identity's file below `gac/N`: its version, an underscore, and its
token in hex (`null` without one). -/
def entryDirName (a : Identity) : String :=
  a.version.render ++ "_" ++ (if a.token.isEmpty then "null" else Text.hexOfBytes a.token)

/-- The parts of an identity's file below the cache. -/
def entryParts (a : Identity) : List String := ["gac", a.name, entryDirName a, a.name ++ ".dll"]

theorem entryFile_eq (a : Identity) : entryFile a = Path.join (entryParts a) := rfl

/-- An identity whose name a put accepts: not blank, and safe for a path. -/
def Named (a : Identity) : Prop := Text.trimBlank a.name ≠ "" ∧ safeName a.name = true

/-! ### The parts of the paths of a put -/

/-- A part with a character other than a dot and no slash is plain. -/
theorem plain_of_mem {s : String} (c : Char) (hc : c ∈ s.toList) (hdot : c ≠ '.')
    (hslash : '/' ∉ s.toList) : Path.Plain s := by
  refine ⟨?_, ?_, ?_, hslash⟩ <;> rintro rfl <;> simp_all

theorem not_slash_of_digits (n : Nat) : '/' ∉ (toString n).toList := by
  intro h
  rw [Nat.toString_eq_repr, Nat.toList_repr] at h
  exact absurd (Nat.isDigit_of_mem_toDigits (by decide) (by decide) h) (by decide)

/-- A name followed by a number, as temporary files are named, is plain. -/
theorem plain_numbered {pre : String} (c : Char) (hc : c ∈ pre.toList) (hdot : c ≠ '.')
    (hslash : '/' ∉ pre.toList) (n : Nat) : Path.Plain (pre ++ toString n ++ "") := by
  refine plain_of_mem c (by simp [hc]) hdot ?_
  simp only [String.toList_append, List.mem_append, not_or]
  exact ⟨⟨hslash, not_slash_of_digits n⟩, by simp⟩

theorem Named.plain_name {a : Identity} (h : Named a) : Path.Plain a.name := by
  obtain ⟨hblank, hsafe⟩ := h
  unfold safeName String.any at hsafe
  rw [String.contains_bool_eq] at hsafe
  simp only [Bool.not_eq_eq_eq_not, Bool.not_true, Bool.or_eq_false_iff, beq_eq_false_iff_ne,
    List.any_eq_false, Bool.or_eq_true, beq_iff_eq] at hsafe
  obtain ⟨⟨hdot, hdouble⟩, hchars⟩ := hsafe
  refine ⟨?_, hdot, ?_, fun hslash => ?_⟩
  · rintro hempty
    rw [hempty] at hblank
    exact hblank (by decide)
  · intro hdd
    rw [hdd] at hdouble
    exact absurd hdouble (by decide)
  · exact hchars '/' hslash (.inl (.inl rfl))

theorem Named.plain_file {a : Identity} (h : Named a) : Path.Plain (a.name ++ ".dll") :=
  plain_of_mem 'd' (by simp) (by decide) (by simpa using h.plain_name.2.2.2)

theorem hexDigit_ne_slash {m : Nat} (hm : m < 16) : Text.hexDigit m ≠ '/' := by
  revert m
  decide

theorem not_slash_hexPad : ∀ (width n : Nat), '/' ∉ Text.hexPad width n
  | 0, _ => by simp [Text.hexPad]
  | width + 1, n => by
    rw [Text.hexPad, List.mem_append, not_or]
    refine ⟨not_slash_hexPad width (n / 16), ?_⟩
    simpa using (hexDigit_ne_slash (Nat.mod_lt n (by decide))).symm

theorem not_slash_hexOfBytes (bytes : List UInt8) : '/' ∉ (Text.hexOfBytes bytes).toList := by
  simp only [Text.hexOfBytes, String.toList_ofList, List.mem_flatMap, not_exists, not_and]
  intro b _
  exact not_slash_hexPad 2 b.toNat

theorem not_slash_render (v : Version4) : '/' ∉ v.render.toList := by
  intro h
  have hall : ∀ x ∈ v.render.toList, x ≠ '/' := by
    refine forall_mem_intercalate (by simp) fun part hpart x hx => ?_
    obtain ⟨p, -, rfl⟩ := List.mem_map.1 hpart
    exact fun he => not_slash_of_digits p.toNat (he ▸ hx)
  exact hall '/' h rfl

theorem plain_entryDirName (a : Identity) : Path.Plain (entryDirName a) := by
  refine plain_of_mem '_' (by simp [entryDirName]) (by decide) ?_
  simp only [entryDirName, String.toList_append, List.mem_append, not_or]
  refine ⟨⟨not_slash_render a.version, by simp⟩, ?_⟩
  split
  · simp
  · exact not_slash_hexOfBytes a.token

theorem plain_gac : Path.Plain "gac" := plain_of_mem 'g' (by simp) (by decide) (by simp)

theorem Named.plain_parts {a : Identity} (h : Named a) : ∀ c ∈ entryParts a, Path.Plain c := by
  simp only [entryParts, List.mem_cons, List.not_mem_nil, or_false]
  rintro c (rfl | rfl | rfl | rfl)
  · exact plain_gac
  · exact h.plain_name
  · exact plain_entryDirName a
  · exact h.plain_file

/-! ### The cleaned parts of the paths of a put -/

/-- The path of an identity's file, as a put writes it. -/
theorem join_entryFile (c : ModuleCache) {a : Identity} (h : Named a) :
    Path.join [c.dir, entryFile a] = Path.join (c.dir :: entryParts a) := by
  rw [entryFile_eq, Path.join_plain h.plain_parts (by simp [entryParts]),
    Path.join_pair_intercalate c.dir h.plain_parts (by simp [entryParts])]

theorem cleaned_entryPath (c : ModuleCache) {a : Identity} (h : Named a) :
    Path.cleaned (Path.join [c.dir, entryFile a]) = Path.cleaned c.dir ++ entryParts a := by
  rw [join_entryFile c h]
  exact (Path.cleaned_join c.dir h.plain_parts (by simp [entryParts])).1

theorem cleaned_imageTemp (c : ModuleCache) {a : Identity} (h : Named a) (n : Nat) :
    Path.cleaned (tempBeside (Path.join [c.dir, entryFile a]) ".image-" n) =
      Path.cleaned c.dir ++ ["gac", a.name, entryDirName a, ".image-" ++ toString n ++ ""] := by
  have hname : Path.Plain (".image-" ++ toString n ++ "") :=
    plain_numbered 'i' (by simp) (by decide) (by simp) n
  have hparts : entryParts a = ["gac", a.name, entryDirName a] ++ [a.name ++ ".dll"] := rfl
  have hdir : ∀ x ∈ ["gac", a.name, entryDirName a], Path.Plain x := fun x hx =>
    h.plain_parts x (by rw [hparts]; exact List.mem_append_left _ hx)
  unfold tempBeside
  rw [(@Path.cleaned_join (Path.dir (Path.join [c.dir, entryFile a])) [".image-" ++ toString n ++ ""]
    (by simpa using hname) (by simp)).1, join_entryFile c h, hparts,
    Path.cleaned_dir_join c.dir hdir (by simp) h.plain_file]
  simp

theorem indexPath_eq (c : ModuleCache) :
    c.indexPath = Path.join (c.dir :: (["gac"] ++ ["index.mp"])) := rfl

theorem cleaned_indexPath (c : ModuleCache) :
    Path.cleaned c.indexPath = Path.cleaned c.dir ++ ["gac", "index.mp"] := by
  have hparts : ∀ x ∈ ["gac", "index.mp"], Path.Plain x := by
    simp only [List.mem_cons, List.not_mem_nil, or_false]
    rintro x (rfl | rfl)
    · exact plain_gac
    · exact plain_of_mem 'i' (by simp) (by decide) (by simp)
  exact (Path.cleaned_join c.dir hparts (by simp)).1

theorem cleaned_indexTemp (c : ModuleCache) (n : Nat) :
    Path.cleaned (tempBeside c.indexPath "index-" n) =
      Path.cleaned c.dir ++ ["gac", "index-" ++ toString n ++ ""] := by
  have hname : Path.Plain ("index-" ++ toString n ++ "") :=
    plain_numbered 'i' (by simp) (by decide) (by simp) n
  unfold tempBeside
  rw [(@Path.cleaned_join (Path.dir c.indexPath) ["index-" ++ toString n ++ ""]
    (by simpa using hname) (by simp)).1, indexPath_eq,
    Path.cleaned_dir_join c.dir (by simpa using plain_gac) (by simp)
      (plain_of_mem 'i' (by simp) (by decide) (by simp))]
  simp

/-! ### Telling the paths of a put apart -/

/-- Paths with different cleaned parts have different keys. -/
theorem key_ne {p q k k' : String} (hp : key? p = some k) (hq : key? q = some k')
    (h : Path.cleaned p ≠ Path.cleaned q) : k ≠ k' := by
  rintro rfl
  apply h
  apply Path.cleaned_eq_of_clean_eq
  rw [← key?_eq_some hp, ← key?_eq_some hq]

/-- The file of an image is not a temporary file: those end in a digit. -/
theorem dll_ne_numbered (s pre : String) (n : Nat) : s ++ ".dll" ≠ pre ++ toString n ++ "" := by
  intro h
  have hlast := congrArg (fun t => t.toList.getLast?) h
  simp only [String.toList_append, List.getLast?_append, Nat.toString_eq_repr,
    Nat.toList_repr] at hlast
  -- the last digit of the number would be the last character of the name, an `l`
  cases hdl : (Nat.toDigits 10 n).getLast? with
  | none =>
    exact absurd (List.getLast?_eq_none_iff.1 hdl)
      (List.ne_nil_of_length_pos Nat.length_toDigits_pos)
  | some d =>
    have hd : d = 'l' := by simpa [hdl] using hlast.symm
    subst hd
    exact absurd (Nat.isDigit_of_mem_toDigits (by decide) (by decide) (List.mem_of_getLast? hdl))
      (by decide)

theorem index_ne_numbered (n : Nat) : "index.mp" ≠ "index-" ++ toString n ++ "" := by
  intro h
  have := congrArg (fun t => t.toList.take 6) h
  simp at this

theorem append_ne_of_length_ne {D xs ys : List String} (h : xs.length ≠ ys.length) :
    D ++ xs ≠ D ++ ys := fun heq => h (congrArg List.length (List.append_cancel_left heq))

/-! ### Reading and writing the index, and one put -/

/-- With the index file stored, the cache's index is the one it holds. -/
theorem readIndex_of_stores {c : ModuleCache} {w : Workspace} {idx : CacheIndex}
    (h : w.Stores c.indexPath idx.encode) (hschema : idx.schema = cacheSchema)
    (hfit : ∀ e ∈ idx.entries, e.Fits) (hlen : idx.entries.length < 2 ^ 32) :
    c.readIndex w = .ok idx := by
  unfold readIndex
  simp only [h.1, h.2, decode_encode_index idx hfit hlen, hschema, bne_self_eq_false]
  rfl

/-- With no index file, or a directory in its place, the only index read is the empty one. -/
theorem readIndex_of_absent {c : ModuleCache} {w : Workspace} {idx : CacheIndex}
    (h : w.find? c.indexPath = none ∨ w.find? c.indexPath = some .directory)
    (hr : c.readIndex w = .ok idx) : idx = CacheIndex.empty := by
  unfold readIndex at hr
  simp only at hr
  split at hr
  · split at hr
    · cases hr
      rfl
    · cases hr
  · cases hr
    rfl
  · cases hr
  · rename_i hfind
    rcases h with h | h <;> rw [h] at hfind <;> cases hfind

/-- The index written: the run writes the index's key and its temporary key only, and the
index, under the current schema, is then stored (unless the two keys are one). -/
theorem writeIndex_eq_ok {c : ModuleCache} {w w' : Workspace} {idx : CacheIndex}
    (h : c.writeIndex w idx = .ok w') :
    ∃ ki kt, key? c.indexPath = some ki ∧
      key? (tempBeside c.indexPath "index-" (w.madeTemps + 1)) = some kt ∧
      Writes w w' [ki, kt] ∧
      (kt ≠ ki → w'.Stores c.indexPath { idx with schema := cacheSchema }.encode) ∧
      w'.madeTemps = w.madeTemps + 1 := by
  unfold writeIndex at h
  obtain ⟨w₁, hdirs, h⟩ := except_bind_eq_ok h
  obtain ⟨⟨w₂, tmp⟩, htemp, hmove⟩ := except_bind_eq_ok h
  exact place_eq_ok hdirs htemp hmove

/-- A put that succeeds: the identity's name is accepted, the image is written to its file,
the index is read, and written again with the identity's entry replaced. -/
theorem put_eq_ok {c : ModuleCache} {w w' : Workspace} {img : Image} {out : String}
    (h : c.put w img = .ok (w', out)) :
    Named img.identity ∧ ∃ w₁ idx,
      w.writeImage (Path.join [c.dir, entryFile img.identity]) img = .ok w₁ ∧
      c.readIndex w₁ = .ok idx ∧
      c.writeIndex w₁ (idx.insert img.identity (entryFile img.identity)) = .ok w' := by
  unfold put at h
  simp only at h
  split at h
  · simp at h
  · rename_i hblank
    split at h
    · simp at h
    · rename_i hsafe
      -- past the checks, the image, the index read and the index written, in turn
      obtain ⟨w₁, himg, h⟩ := except_bind_eq_ok h
      obtain ⟨idx, hidx, h⟩ := except_bind_eq_ok h
      obtain ⟨w₂, hw, hdone⟩ := except_bind_eq_ok h
      cases hdone
      exact ⟨⟨by simpa using hblank, by simpa using hsafe⟩, w₁, idx, himg, hidx, hw⟩

/-- A put of an accepted identity whose image is written, whose index is read and written again
succeeds, and gives the path of the image's file. -/
theorem put_of_steps {c : ModuleCache} {w w₁ w' : Workspace} {img : Image} {idx : CacheIndex}
    (hnamed : Named img.identity)
    (himg : w.writeImage (Path.join [c.dir, entryFile img.identity]) img = .ok w₁)
    (hidx : c.readIndex w₁ = .ok idx)
    (hwi : c.writeIndex w₁ (idx.insert img.identity (entryFile img.identity)) = .ok w') :
    c.put w img = .ok (w', Path.join [c.dir, entryFile img.identity]) := by
  obtain ⟨hblank, hsafe⟩ := hnamed
  unfold put
  simp [hblank, hsafe, himg, hidx, hwi]

theorem entryParts_ne_imageTemp (a b : Identity) (n : Nat) :
    entryParts a ≠ ["gac", b.name, entryDirName b, ".image-" ++ toString n ++ ""] := by
  intro h
  simp only [entryParts, List.cons.injEq] at h
  exact dll_ne_numbered a.name ".image-" n h.2.2.2.1

/-! ### The keys a put writes -/

/-- The keys of the four paths a put of `a` writes: the image's file and its `n`-th temporary
file, the index and its `m`-th temporary file. -/
structure PutKeys (c : ModuleCache) (a : Identity) (n m : Nat) (kp kt ki kit : String) :
    Prop where
  image : key? (Path.join [c.dir, entryFile a]) = some kp
  imageTemp : key? (tempBeside (Path.join [c.dir, entryFile a]) ".image-" n) = some kt
  index : key? c.indexPath = some ki
  indexTemp : key? (tempBeside c.indexPath "index-" m) = some kit

namespace PutKeys

variable {c : ModuleCache} {a : Identity} {n m : Nat} {kp kt ki kit : String}

/-- The image and the index each have a key apart from their temporary file's: the last parts
differ. -/
theorem temps_apart (h : PutKeys c a n m kp kt ki kit) (ha : Named a) : kt ≠ kp ∧ kit ≠ ki := by
  refine ⟨key_ne h.imageTemp h.image ?_, key_ne h.indexTemp h.index ?_⟩
  · rw [cleaned_imageTemp c ha, cleaned_entryPath c ha]
    exact fun heq => entryParts_ne_imageTemp _ _ _ (List.append_cancel_left heq).symm
  · rw [cleaned_indexTemp, cleaned_indexPath]
    intro heq
    simp only [List.append_cancel_left_eq, List.cons.injEq] at heq
    exact index_ne_numbered _ heq.2.1.symm

/-- Writing the image leaves the index's key alone, and writing the index leaves the image's:
below the cache the index's paths have two parts, the image's four. -/
theorem image_index_apart (h : PutKeys c a n m kp kt ki kit) (ha : Named a) :
    ki ∉ [kp, kt] ∧ kp ∉ [ki, kit] := by
  have hip : ki ≠ kp := key_ne h.index h.image (by
    rw [cleaned_indexPath, cleaned_entryPath c ha]
    exact append_ne_of_length_ne (by simp [entryParts]))
  have hit : ki ≠ kt := key_ne h.index h.imageTemp (by
    rw [cleaned_indexPath, cleaned_imageTemp c ha]
    exact append_ne_of_length_ne (by simp))
  have hpit : kp ≠ kit := key_ne h.image h.indexTemp (by
    rw [cleaned_entryPath c ha, cleaned_indexTemp]
    exact append_ne_of_length_ne (by simp [entryParts]))
  simp [hip, hit, Ne.symm hip, hpit]

/-- The file of another accepted identity, when it is not the image's file, has a key that the
put does not write. -/
theorem other_apart (h : PutKeys c a n m kp kt ki kit) (ha : Named a) {b : Identity}
    (hb : Named b) (hf : entryFile b ≠ entryFile a) {ke : String}
    (hke : key? (Path.join [c.dir, entryFile b]) = some ke) :
    ke ∉ [kp, kt] ∧ ke ∉ [ki, kit] := by
  have hce := cleaned_entryPath c hb
  have hep : ke ≠ kp := key_ne hke h.image (by
    rw [hce, cleaned_entryPath c ha]
    intro heq
    apply hf
    rw [entryFile_eq, entryFile_eq, List.append_cancel_left heq])
  have het : ke ≠ kt := key_ne hke h.imageTemp (by
    rw [hce, cleaned_imageTemp c ha]
    exact fun heq => entryParts_ne_imageTemp _ _ _ (List.append_cancel_left heq))
  have hei : ke ≠ ki := key_ne hke h.index (by
    rw [hce, cleaned_indexPath]
    exact append_ne_of_length_ne (by simp [entryParts]))
  have heit : ke ≠ kit := key_ne hke h.indexTemp (by
    rw [hce, cleaned_indexTemp]
    exact append_ne_of_length_ne (by simp [entryParts]))
  simp [hep, het, hei, heit]

end PutKeys

/-! ### What a run of puts keeps -/

/-- An image a cache can keep and list: the image reads back from its bytes, and the name of
its file reads back from the index. -/
def Keepable (img : Image) : Prop := img.Fits ∧ Text.Fits (entryFile img.identity)

/-- Among images put in order, the one put last to a file of the cache. -/
def lastWithFile (imgs : List Image) (f : String) : Option Image :=
  imgs.reverse.find? fun img => entryFile img.identity == f

theorem lastWithFile_append_self (imgs : List Image) (img : Image) :
    lastWithFile (imgs ++ [img]) (entryFile img.identity) = some img := by
  simp [lastWithFile]

theorem lastWithFile_append_of_ne (imgs : List Image) {img : Image} {f : String}
    (hf : f ≠ entryFile img.identity) : lastWithFile (imgs ++ [img]) f = lastWithFile imgs f := by
  have hne : (entryFile img.identity == f) = false := by simpa using Ne.symm hf
  simp only [lastWithFile, List.reverse_append, List.reverse_singleton, List.singleton_append,
    List.find?_cons, hne]

theorem mem_of_lastWithFile {imgs : List Image} {f : String} {img : Image}
    (h : lastWithFile imgs f = some img) : img ∈ imgs ∧ entryFile img.identity = f := by
  have hmem := List.mem_of_find?_eq_some h
  have hfile := List.find?_some h
  exact ⟨List.mem_reverse.1 hmem, by simpa using hfile⟩

/-- What a cache holds after the images `imgs` were put in order, `idx` being the index they
leave: the index tracks their identities, each of which a put accepted; it is stored in the
index file, or it is empty and there is no index file; and the file of each entry stores the
image put last to that file. -/
structure Keeps (c : ModuleCache) (w : Workspace) (imgs : List Image) (idx : CacheIndex) :
    Prop where
  tracks : idx.Tracks (imgs.map Image.identity)
  named : ∀ img ∈ imgs, Named img.identity
  count : idx.entries.length ≤ imgs.length
  index : (idx = CacheIndex.empty ∧ w.find? c.indexPath = none) ∨
    w.Stores c.indexPath idx.encode
  files : ∀ e ∈ idx.entries, ∃ img, lastWithFile imgs e.file = some img ∧
    w.Stores (Path.join [c.dir, e.file]) img.encode

section Keeps

variable {c : ModuleCache} {w : Workspace} {imgs : List Image} {idx : CacheIndex}

/-- The identity of an entry is one that was put. -/
theorem Keeps.put_of_entry (hk : Keeps c w imgs idx) {e : CacheEntry} (he : e ∈ idx.entries) :
    ∃ img ∈ imgs, img.identity = e.identity := by
  obtain ⟨hmem, -⟩ := mem_of_lastWithKey (hk.tracks.last e he)
  exact List.mem_map.1 hmem

theorem Keeps.named_entry (hk : Keeps c w imgs idx) {e : CacheEntry} (he : e ∈ idx.entries) :
    Named e.identity := by
  obtain ⟨img, himg, hid⟩ := hk.put_of_entry he
  exact hid ▸ hk.named img himg

theorem Keeps.entries_fit (hk : Keeps c w imgs idx) (hfit : ∀ img ∈ imgs, Keepable img) :
    ∀ e ∈ idx.entries, e.Fits := by
  intro e he
  obtain ⟨img, himg, hid⟩ := hk.put_of_entry he
  obtain ⟨hfits, hfile⟩ := hfit img himg
  rw [hid] at hfile
  refine ⟨hid ▸ hfits.1, ?_⟩
  rw [hk.tracks.file e he]
  exact hfile

/-- Writes that leave the index's key alone leave the index read the one the previous puts
left. -/
theorem Keeps.readIndex_of_writes (hk : Keeps c w imgs idx) (hfit : ∀ x ∈ imgs, Keepable x)
    (hcount : imgs.length < 2 ^ 32) {w₁ : Workspace} {ks : List String} {ki : String}
    (hw : Writes w w₁ ks) (hki : key? c.indexPath = some ki) (hks : ki ∉ ks)
    {idx₁ : CacheIndex} (hidx : c.readIndex w₁ = .ok idx₁) : idx₁ = idx := by
  rcases hk.index with ⟨rfl, hnone⟩ | hstored
  · -- there is no index file, and the writes make none
    apply readIndex_of_absent _ hidx
    have hdot : ki ≠ "." := by
      rintro rfl
      rw [w.find?_of_key?_dot hki] at hnone
      cases hnone
    rw [w.find?_of_key? hki hdot] at hnone
    rw [w₁.find?_of_key? hki hdot]
    rcases hw.frames ki hks with heq | ⟨_, hdir⟩
    · exact .inl (heq.trans hnone)
    · exact .inr hdir
  · have hread := readIndex_of_stores (hstored.of_writes hw hki hks)
      hk.tracks.schema (hk.entries_fit hfit) (by have := hk.count; omega)
    rw [hread] at hidx
    exact (Except.ok.inj hidx).symm

/-- After a put, the file of every entry stores the image put last to it: the image's own file
stores the image, and the file of every other entry is one the put does not write. -/
theorem Keeps.files_put (hk : Keeps c w imgs idx) {img : Image} (hnamed : Named img.identity)
    {n m : Nat} {kp kt ki kit : String} (hkeys : PutKeys c img.identity n m kp kt ki kit)
    {w₁ w' : Workspace} (hw₁ : Writes w w₁ [kp, kt]) (hw₂ : Writes w₁ w' [ki, kit])
    (hstored : w'.Stores (Path.join [c.dir, entryFile img.identity]) img.encode)
    {e : CacheEntry} (he : e ∈ (idx.insert img.identity (entryFile img.identity)).entries) :
    ∃ x, lastWithFile (imgs ++ [img]) e.file = some x ∧
      w'.Stores (Path.join [c.dir, e.file]) x.encode := by
  rcases CacheIndex.mem_insert.1 he with ⟨hold, -⟩ | rfl
  · obtain ⟨imgₑ, hlast, hstoreₑ⟩ := hk.files e hold
    by_cases hf : e.file = entryFile img.identity
    · -- the entry shares its file with the image put: the file now holds that image
      rw [hf]
      exact ⟨img, lastWithFile_append_self imgs img, hstored⟩
    · have hfile := hk.tracks.file e hold
      obtain ⟨ke, hke⟩ := key?_of_stores hstoreₑ
      obtain ⟨hout₁, hout₂⟩ := hkeys.other_apart hnamed (hk.named_entry hold)
        (fun h => hf (hfile.trans h)) (hfile ▸ hke)
      exact ⟨imgₑ, by rw [lastWithFile_append_of_ne imgs hf]; exact hlast,
        (hstoreₑ.of_writes hw₁ hke hout₁).of_writes hw₂ hke hout₂⟩
  · exact ⟨img, lastWithFile_append_self imgs img, hstored⟩

/-- One put keeps what the cache holds: the index it writes tracks the identity put too, and
the image's file stores it, while every other entry's file keeps its image unless the image
was put to that same file. -/
theorem Keeps.put (hk : Keeps c w imgs idx) {w' : Workspace} {img : Image} {out : String}
    (hput : c.put w img = .ok (w', out)) (hfit : ∀ x ∈ imgs, Keepable x)
    (hcount : imgs.length < 2 ^ 32) :
    Keeps c w' (imgs ++ [img]) (idx.insert img.identity (entryFile img.identity)) := by
  obtain ⟨hnamed, w₁, idx₁, himg, hidx, hwi⟩ := put_eq_ok hput
  obtain ⟨kp, kt, hkp, hkt, hw₁, hstore₁, -⟩ := writeImage_eq_ok himg
  obtain ⟨ki, kit, hki, hkit, hw₂, hstore₂, -⟩ := writeIndex_eq_ok hwi
  have hkeys : PutKeys c img.identity _ _ kp kt ki kit := ⟨hkp, hkt, hki, hkit⟩
  obtain ⟨htp, hiti⟩ := hkeys.temps_apart hnamed
  obtain ⟨hi, hp⟩ := hkeys.image_index_apart hnamed
  -- the index read is the one the previous puts left
  have hidx₁ := hk.readIndex_of_writes hfit hcount hw₁ hki hi hidx
  subst idx₁
  have hstored : w'.Stores (Path.join [c.dir, entryFile img.identity]) img.encode :=
    (hstore₁ htp).of_writes hw₂ hkp hp
  refine ⟨?_, fun x hx => ?_, ?_, .inr ?_,
    fun e he => hk.files_put hnamed hkeys hw₁ hw₂ hstored he⟩
  · rw [List.map_append, List.map_singleton]
    exact hk.tracks.insert img.identity
  · rcases List.mem_append.1 hx with hx | hx
    · exact hk.named x hx
    · rw [List.mem_singleton.1 hx]
      exact hnamed
  · have := CacheIndex.length_insert_le idx img.identity (entryFile img.identity)
    have := hk.count
    simp only [List.length_append, List.length_singleton]
    omega
  · have hschema : { idx.insert img.identity (entryFile img.identity) with
        schema := cacheSchema } = idx.insert img.identity (entryFile img.identity) := by
      rw [← hk.tracks.schema]
      rfl
    rw [← hschema]
    exact hstore₂ hiti

end Keeps

/-- A run of puts keeps what the cache holds, from the images put before it to those put by
it. -/
theorem Keeps.foldlM {c : ModuleCache} {rest : List Image} :
    ∀ {w w' : Workspace} {imgs : List Image} {idx : CacheIndex}, Keeps c w imgs idx →
      (∀ x ∈ imgs ++ rest, Keepable x) → (imgs ++ rest).length < 2 ^ 32 →
      rest.foldlM (fun w img => Prod.fst <$> c.put w img) w = .ok w' →
      ∃ idx', Keeps c w' (imgs ++ rest) idx' := by
  induction rest with
  | nil =>
    intro w w' imgs idx hk _ _ hrun
    cases hrun
    exact ⟨idx, by simpa using hk⟩
  | cons img rest ih =>
    intro w w' imgs idx hk hfit hcount hrun
    -- the first put, then the rest of the run from what it left
    rw [List.foldlM_cons] at hrun
    obtain ⟨w₁, hstep, hrest⟩ := except_bind_eq_ok hrun
    obtain ⟨⟨w₂, out⟩, hput, rfl⟩ := except_map_eq_ok hstep
    have hk₁ := hk.put hput (fun x hx => hfit x (List.mem_append_left _ hx))
      (by simp only [List.length_append, List.length_cons] at hcount; omega)
    have hrun₁ := ih hk₁ (by simpa using hfit) (by simpa using hcount) hrest
    simpa using hrun₁

/-- After any run of puts of images the cache can keep, into a cache with no index file yet,
the cache's index tracks the identities put: its entries are sorted by key with no key twice,
each carries the identity put last under its key and that identity's file, and every key put
has an entry.  The file of each entry holds, not always an image of the entry's key, but the
image put last to that file, which is named by name, version and token only. -/
theorem puts_keep_index_and_files (c : ModuleCache) (imgs : List Image) (w₀ w : Workspace)
    (hfit : ∀ img ∈ imgs, Keepable img) (hcount : imgs.length < 2 ^ 32)
    (hstart : w₀.find? c.indexPath = none) (hne : imgs ≠ [])
    (hrun : imgs.foldlM (fun w img => Prod.fst <$> c.put w img) w₀ = .ok w) :
    ∃ idx, c.readIndex w = .ok idx ∧ idx.Tracks (imgs.map Image.identity) ∧
      ∀ e ∈ idx.entries, ∃ img, lastWithFile imgs e.file = some img ∧
        w.readImage (Path.join [c.dir, e.file]) = .ok { img with schema := imageSchema } := by
  have hk₀ : Keeps c w₀ [] CacheIndex.empty :=
    ⟨CacheIndex.tracks_empty, by simp, by simp [CacheIndex.empty], .inl ⟨rfl, hstart⟩,
      by simp [CacheIndex.empty]⟩
  obtain ⟨idx, hk⟩ := @Keeps.foldlM c imgs w₀ w [] CacheIndex.empty hk₀ (by simpa using hfit)
    (by simpa using hcount) hrun
  rw [List.nil_append] at hk
  -- after a put the index is stored: it is not empty, the key put having an entry
  have hstored : w.Stores c.indexPath idx.encode := by
    rcases hk.index with ⟨rfl, -⟩ | hstored
    · obtain ⟨img, himg⟩ := List.exists_mem_of_ne_nil imgs hne
      obtain ⟨e, he, -⟩ := hk.tracks.complete img.identity (List.mem_map_of_mem himg)
      simp [CacheIndex.empty] at he
    · exact hstored
  refine ⟨idx, readIndex_of_stores hstored hk.tracks.schema (hk.entries_fit hfit)
    (by have := hk.count; omega), hk.tracks, fun e he => ?_⟩
  obtain ⟨img, hlast, hstore⟩ := hk.files e he
  exact ⟨img, hlast, readImage_of_stores hstore (hfit img (mem_of_lastWithFile hlast).1).1⟩

/-! ### Two cultures of one module -/

/-- The name check of a put, with the characters of the name read as a list. -/
theorem safeName_eq (name : String) : safeName name =
    !(name == "." || hasDoubleDot name.toList ||
      name.toList.any fun ch => ch == '/' || ch == '\\' || ch == '\x00') := by
  unfold safeName String.any
  rw [String.contains_bool_eq]

theorem eq_ok_of_toOption {ε α : Type} {e : Except ε α} {a : α} (h : e.toOption = some a) :
    e = .ok a := by
  cases e <;> simp_all [Except.toOption]

/-- An image written once the directories of its path are made. -/
theorem writeImage_of_makeDirs {w w₁ : Workspace} {p : String} {img : Image}
    (h : w.makeDirs (Path.dir p) = .ok w₁) :
    w.writeImage p img = (do
      let (w, tmp) ← w₁.writeTemp (Path.dir p) ".image-" "" img.encode
      w.rename tmp p) := by
  simp [Workspace.writeImage, h]

theorem mergeSort_pair {α : Type} (le : α → α → Bool) (a b : α) :
    [a, b].mergeSort le = if le a b then [a, b] else [b, a] := by
  rw [List.mergeSort]
  simp only [List.MergeSort.Internal.splitInTwo_fst, List.MergeSort.Internal.splitInTwo_snd]
  split <;> simp_all

deriving instance DecidableEq for Workspace

/-- `A 1.0.0.0` without a token, of a culture. -/
def cultureIdentity (culture : String) : Identity := ⟨"A", ⟨1, 0, 0, 0⟩, [], culture⟩

/-- An image of `cultureIdentity culture` for runtime v4.0.30319, with nothing in it. -/
def cultureImage (culture : String) : Image :=
  ⟨imageSchema, cultureIdentity culture, "v4.0.30319", [], [], []⟩

/-- The cache in the directory `gac-root`. -/
def gacRoot : ModuleCache := ⟨"gac-root"⟩

/-- The index after the image of culture `de` is put. -/
def culturedIndex : CacheIndex :=
  CacheIndex.empty.insert (cultureIdentity "de") (entryFile (cultureIdentity "de"))

/-- The index after the neutral image is put too. -/
def bothIndex : CacheIndex :=
  culturedIndex.insert (cultureIdentity "") (entryFile (cultureIdentity ""))

/-- The directories of the file of `A 1.0.0.0` in `gac-root`. -/
def imageDirs : List (String × Entry) :=
  [("gac-root", .directory), ("gac-root/gac", .directory), ("gac-root/gac/A", .directory),
    ("gac-root/gac/A/1.0.0.0_null", .directory)]

/-- The workspace of the cache when the file of `A 1.0.0.0` holds `image` and the index file
holds `idx`, after `temps` temporary files. -/
def cacheHolding (image : Image) (idx : CacheIndex) (temps : Nat) : Workspace :=
  ⟨imageDirs ++ [("gac-root/gac/A/1.0.0.0_null/A.dll", .file image.encode),
    ("gac-root/gac/index.mp", .file idx.encode)], temps⟩

theorem named_cultureIdentity (culture : String) : Named (cultureIdentity culture) := by
  have hsafe : safeName "A" = true := by
    rw [safeName_eq]
    decide
  exact ⟨show Text.trimBlank "A" ≠ "" by decide, hsafe⟩

theorem culturedIndex_entries :
    culturedIndex.entries = [⟨cultureIdentity "de", "gac/A/1.0.0.0_null/A.dll"⟩] := by
  with_unfolding_all rfl

theorem bothIndex_entries :
    bothIndex.entries = [⟨cultureIdentity "", "gac/A/1.0.0.0_null/A.dll"⟩,
      ⟨cultureIdentity "de", "gac/A/1.0.0.0_null/A.dll"⟩] := by
  -- the entry of the other culture stays, and the neutral one sorts before it
  have hne : ((cultureIdentity "de").key != (cultureIdentity "").key) = true := by decide +kernel
  have hle : decide ((cultureIdentity "de").key ≤ (cultureIdentity "").key) = false := by
    decide +kernel
  simp only [bothIndex, CacheIndex.insert, culturedIndex_entries, List.filter_cons, hne,
    List.filter_nil, if_true, List.singleton_append, mergeSort_pair, hle]
  with_unfolding_all rfl

theorem stores_index (image : Image) (idx : CacheIndex) (temps : Nat) :
    (cacheHolding image idx temps).Stores gacRoot.indexPath idx.encode :=
  ⟨by with_unfolding_all rfl, by with_unfolding_all rfl⟩

theorem stores_image (image : Image) (idx : CacheIndex) (temps : Nat) :
    (cacheHolding image idx temps).Stores "gac-root/gac/A/1.0.0.0_null/A.dll" image.encode :=
  ⟨by with_unfolding_all rfl, by with_unfolding_all rfl⟩

/-! The steps of the two puts.  The bytes of images and indexes are written and moved as they
are, so each step unfolds to its result with the bytes compared as terms. -/

theorem image_dirs_made :
    Workspace.empty.makeDirs
        (Path.dir (Path.join [gacRoot.dir, entryFile (cultureImage "de").identity])) =
      .ok ⟨imageDirs, 0⟩ := by
  apply eq_ok_of_toOption
  decide +kernel

theorem cultured_image_written :
    Workspace.empty.writeImage (Path.join [gacRoot.dir, entryFile (cultureImage "de").identity])
        (cultureImage "de") =
      .ok ⟨imageDirs ++ [("gac-root/gac/A/1.0.0.0_null/A.dll", .file (cultureImage "de").encode)],
        1⟩ := by
  rw [writeImage_of_makeDirs image_dirs_made]
  with_unfolding_all rfl

theorem first_index_read :
    gacRoot.readIndex
        ⟨imageDirs ++ [("gac-root/gac/A/1.0.0.0_null/A.dll", .file (cultureImage "de").encode)], 1⟩ =
      .ok CacheIndex.empty := by
  with_unfolding_all rfl

theorem culturedIndex_written :
    gacRoot.writeIndex
        ⟨imageDirs ++ [("gac-root/gac/A/1.0.0.0_null/A.dll", .file (cultureImage "de").encode)], 1⟩
        (CacheIndex.empty.insert (cultureImage "de").identity (entryFile (cultureImage "de").identity)) =
      .ok (cacheHolding (cultureImage "de") culturedIndex 2) := by
  with_unfolding_all rfl

theorem neutral_image_written :
    (cacheHolding (cultureImage "de") culturedIndex 2).writeImage
        (Path.join [gacRoot.dir, entryFile (cultureImage "").identity]) (cultureImage "") =
      .ok (cacheHolding (cultureImage "") culturedIndex 3) := by
  with_unfolding_all rfl

theorem culturedIndex_read :
    gacRoot.readIndex (cacheHolding (cultureImage "") culturedIndex 3) = .ok culturedIndex := by
  apply readIndex_of_stores (stores_index _ _ _) rfl _ (by rw [culturedIndex_entries]; decide)
  simp (disch := decide) [culturedIndex_entries, CacheEntry.Fits, Identity.Fits, cultureIdentity,
    Text.fits_of_ascii]

theorem bothIndex_written :
    gacRoot.writeIndex (cacheHolding (cultureImage "") culturedIndex 3)
        (culturedIndex.insert (cultureImage "").identity (entryFile (cultureImage "").identity)) =
      .ok (cacheHolding (cultureImage "") bothIndex 4) := by
  with_unfolding_all rfl

theorem bothIndex_read :
    gacRoot.readIndex (cacheHolding (cultureImage "") bothIndex 4) = .ok bothIndex := by
  apply readIndex_of_stores (stores_index _ _ _) rfl _ (by rw [bothIndex_entries]; decide)
  simp (disch := decide) [bothIndex_entries, CacheEntry.Fits, Identity.Fits, cultureIdentity,
    Text.fits_of_ascii]

/-- Putting the image of culture `de` into an empty workspace, then the neutral one: the second
put overwrites the file of the first. -/
theorem cultured_then_neutral_run :
    [cultureImage "de", cultureImage ""].foldlM (fun w img => Prod.fst <$> gacRoot.put w img)
      Workspace.empty = .ok (cacheHolding (cultureImage "") bothIndex 4) := by
  have hde : gacRoot.put Workspace.empty (cultureImage "de") =
      .ok (cacheHolding (cultureImage "de") culturedIndex 2, "gac-root/gac/A/1.0.0.0_null/A.dll") :=
    put_of_steps (named_cultureIdentity "de") cultured_image_written first_index_read
      culturedIndex_written
  have hneutral : gacRoot.put (cacheHolding (cultureImage "de") culturedIndex 2) (cultureImage "") =
      .ok (cacheHolding (cultureImage "") bothIndex 4, "gac-root/gac/A/1.0.0.0_null/A.dll") :=
    put_of_steps (named_cultureIdentity "") neutral_image_written culturedIndex_read
      bothIndex_written
  simp [hde, hneutral]

theorem cultureImages_keepable : ∀ img ∈ [cultureImage "de", cultureImage ""], Keepable img := by
  simp (disch := decide) [Keepable, cultureImage, cultureIdentity, Image.Fits, Identity.Fits,
    Text.fits_of_ascii]

/-- The two puts keep an index of both identities, each entry's file holding the image put last
to it. -/
theorem two_cultures_kept :
    [cultureImage "de", cultureImage ""].foldlM (fun w img => Prod.fst <$> gacRoot.put w img)
        Workspace.empty = .ok (cacheHolding (cultureImage "") bothIndex 4) ∧
      ∃ idx, gacRoot.readIndex (cacheHolding (cultureImage "") bothIndex 4) = .ok idx ∧
        idx.Tracks ([cultureImage "de", cultureImage ""].map Image.identity) ∧
        ∀ e ∈ idx.entries, ∃ img, lastWithFile [cultureImage "de", cultureImage ""] e.file = some img ∧
          (cacheHolding (cultureImage "") bothIndex 4).readImage (Path.join [gacRoot.dir, e.file]) =
            .ok { img with schema := imageSchema } :=
  ⟨cultured_then_neutral_run, puts_keep_index_and_files gacRoot _ Workspace.empty _
    cultureImages_keepable (by decide) (by with_unfolding_all rfl) (by simp)
    cultured_then_neutral_run⟩

/-- After the image of `A 1.0.0.0` of culture `de` and then the neutral one are put, a lookup of
the `de` identity gives the file of `A 1.0.0.0`, and that file holds the neutral image. -/
theorem lookup_of_culture_reads_neutral_image :
    [cultureImage "de", cultureImage ""].foldlM (fun w img => Prod.fst <$> gacRoot.put w img)
        Workspace.empty = .ok (cacheHolding (cultureImage "") bothIndex 4) ∧
      gacRoot.lookup (cacheHolding (cultureImage "") bothIndex 4) (cultureIdentity "de") =
        .ok (some "gac-root/gac/A/1.0.0.0_null/A.dll") ∧
      (cacheHolding (cultureImage "") bothIndex 4).readImage "gac-root/gac/A/1.0.0.0_null/A.dll" =
        .ok (cultureImage "") := by
  have hfits : (cultureImage "").Fits := by
    simp (disch := decide) [cultureImage, cultureIdentity, Image.Fits, Identity.Fits,
      Text.fits_of_ascii]
  refine ⟨cultured_then_neutral_run, ?_, readImage_of_stores (stores_image _ _ _) hfits⟩
  -- the index read lists the neutral entry first, and the lookup passes over it
  unfold lookup
  rw [if_neg (by decide), bothIndex_read]
  show Except.ok (Option.map (fun e => Path.join [gacRoot.dir, e.file])
    (bothIndex.entries.find? fun e => answers (cultureIdentity "de") e.identity)) = _
  rw [bothIndex_entries]
  apply eq_ok_of_toOption
  decide +kernel

end ModuleCache

end NativeExports

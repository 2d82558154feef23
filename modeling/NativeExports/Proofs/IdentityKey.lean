import Mathlib
import NativeExports.Assembler.Alias
import NativeExports.Loader
import NativeExports.Proofs.CacheRun
/-!
Purpose: when two module identities share a key, and so an alias and a binding.

The key joins the lowered name, the version, the token in hexadecimal and the lowered culture
with slashes, and escapes nothing.  Version and token are written without a slash, and
lowering makes a slash of a slash only, so when neither name holds a slash the first slash of
a key ends the name and the next two end the version and the token.  Keys are then equal
exactly when the identities agree up to the case of name and culture (`key_eq_iff`).  A slash
in a name moves the boundaries: the module `a/0.0.0.0/` with no culture and the module `a`
with culture `0.0.0.0//` share a key (`slashed_name_shares_key`).

The alias table and the loader's memo look modules up by key, so for identities with such
names they give one alias, or one binding, exactly when the identities agree up to case
(`key_merges_only_case_variants`).
-/

namespace NativeExports

open Text

/-! ### Splitting at a separator -/

/-- A prefix without the separator ends at its first occurrence, so it is determined. -/
theorem append_sep_inj {α : Type} {sep : α} :
    ∀ {a b c d : List α}, sep ∉ a → sep ∉ c → a ++ sep :: b = c ++ sep :: d → a = c ∧ b = d
  | [], b, [], d, _, _, h => ⟨rfl, by simpa using h⟩
  | [], b, x :: c, d, _, hc, h => by
    obtain ⟨rfl, -⟩ := List.cons_eq_cons.1 h
    exact absurd List.mem_cons_self hc
  | y :: a, b, [], d, ha, _, h => by
    obtain ⟨rfl, -⟩ := List.cons_eq_cons.1 h
    exact absurd List.mem_cons_self ha
  | y :: a, b, x :: c, d, ha, hc, h => by
    obtain ⟨rfl, htail⟩ := List.cons_eq_cons.1 h
    obtain ⟨rfl, rfl⟩ := append_sep_inj (List.not_mem_of_not_mem_cons ha)
      (List.not_mem_of_not_mem_cons hc) htail
    exact ⟨rfl, rfl⟩

/-! ### Lowering makes no slash -/

theorem ofNat_ne_slash {m : Nat} (hm : 0x2F < m) : Char.ofNat m ≠ '/' := by
  intro h
  have h' : (Char.ofNat m).toNat = 0x2F := by rw [h]; rfl
  by_cases hv : m.isValidChar
  · rw [Char.ofNat, dif_pos hv] at h'
    exact absurd h' (show m ≠ 0x2F by omega)
  · rw [Char.ofNat, dif_neg hv] at h'
    exact absurd h' (by decide)

/-- No run of the lowercase table maps a character at or above its start below `0x30`. -/
theorem lowerRuns_above_slash : lowerRuns.all (fun r => 0x2F < r.first + r.offset) = true := by
  decide

theorem mapByRuns_lower_above_slash {n : Nat} (hn : 0x2F < n) : 0x2F < mapByRuns lowerRuns n := by
  unfold mapByRuns
  split
  · next r hfind =>
    have hcovers := List.find?_some hfind
    have hrun := List.all_eq_true.1 lowerRuns_above_slash r (List.mem_of_find?_eq_some hfind)
    simp only [CaseRun.covers, Bool.and_eq_true, decide_eq_true_eq] at hcovers hrun
    omega
  · exact hn

/-- Among the ASCII characters only the slash lowers to a slash. -/
theorem toLower_ascii_eq_slash : ∀ n < 0x80, (Char.ofNat n).toLower = '/' → n = 0x2F := by
  decide

theorem lowerChar_eq_slash {c : Char} (h : lowerChar c = '/') : c = '/' := by
  unfold lowerChar at h
  split at h
  · next hascii =>
    rw [← Char.ofNat_toNat c] at h
    rw [← Char.ofNat_toNat c, toLower_ascii_eq_slash c.toNat hascii h]
  · next hwide =>
    -- Above ASCII the character read is the character or the replacement character, both
    -- above the slash, and no run of the table moves either below it.
    have hseen : 0x2F < (seenChar c).toNat := by
      unfold seenChar
      split
      · decide
      · omega
    exact absurd h (ofNat_ne_slash (mapByRuns_lower_above_slash hseen))

theorem not_slash_lower {s : String} (h : '/' ∉ s.toList) : '/' ∉ (lower s).toList := by
  simp only [lower, String.toList_ofList, List.mem_map, not_exists, not_and]
  intro c hc hlow
  exact h (lowerChar_eq_slash hlow ▸ hc)

/-! ### Versions and tokens are written injectively -/

theorem toDigits_injective {m n : Nat} (h : Nat.toDigits 10 m = Nat.toDigits 10 n) : m = n := by
  rw [← Nat.ofDigitChars_toDigits (b := 10) (n := m) (by decide) (by decide), h,
    Nat.ofDigitChars_toDigits (by decide) (by decide)]

theorem not_dot_toDigits (n : Nat) : '.' ∉ Nat.toDigits 10 n := fun h =>
  absurd (Nat.isDigit_of_mem_toDigits (by decide) (by decide) h) (by decide)

theorem Version4.render_toList (v : Version4) :
    v.render.toList = Nat.toDigits 10 v.major.toNat ++ '.' :: (Nat.toDigits 10 v.minor.toNat ++
      '.' :: (Nat.toDigits 10 v.build.toNat ++ '.' :: Nat.toDigits 10 v.revision.toNat)) := by
  simp [Version4.render, Version4.parts, Nat.toString_eq_repr, Nat.toList_repr]

theorem Version4.render_injective : Function.Injective Version4.render := by
  intro ⟨a₁, a₂, a₃, a₄⟩ ⟨b₁, b₂, b₃, b₄⟩ h
  have h := congrArg String.toList h
  rw [render_toList, render_toList] at h
  -- Each part is read off up to the next dot, which no part holds.
  obtain ⟨h₁, h⟩ := append_sep_inj (not_dot_toDigits _) (not_dot_toDigits _) h
  obtain ⟨h₂, h⟩ := append_sep_inj (not_dot_toDigits _) (not_dot_toDigits _) h
  obtain ⟨h₃, h₄⟩ := append_sep_inj (not_dot_toDigits _) (not_dot_toDigits _) h
  simp only [Version4.mk.injEq, ← UInt16.toNat_inj]
  exact ⟨toDigits_injective h₁, toDigits_injective h₂, toDigits_injective h₃,
    toDigits_injective h₄⟩

theorem hexDigit_inj : ∀ m < 16, ∀ n < 16, hexDigit m = hexDigit n → m = n := by
  decide

theorem hexByte_eq (b : UInt8) :
    hexByte b = [hexDigit (b.toNat / 16 % 16), hexDigit (b.toNat % 16)] := by
  simp [hexByte, hexPad]

theorem hexByte_injective : Function.Injective hexByte := by
  intro b c h
  rw [hexByte_eq, hexByte_eq] at h
  simp only [List.cons.injEq, and_true] at h
  have hhigh := hexDigit_inj _ (Nat.mod_lt _ (by decide)) _ (Nat.mod_lt _ (by decide)) h.1
  have hlow := hexDigit_inj _ (Nat.mod_lt _ (by decide)) _ (Nat.mod_lt _ (by decide)) h.2
  have hb := b.toNat_lt
  have hc := c.toNat_lt
  exact UInt8.toNat_inj.1 (by omega)

theorem hexOfBytes_injective : Function.Injective hexOfBytes := by
  intro bs cs h
  replace h : bs.flatMap hexByte = cs.flatMap hexByte := by
    simpa [hexOfBytes] using congrArg String.toList h
  -- Every byte is written as two digits, so the bytes are read off two digits at a time.
  induction bs generalizing cs with
  | nil => cases cs <;> simp_all [hexByte_eq]
  | cons b bs ih =>
    cases cs with
    | nil => simp [hexByte_eq] at h
    | cons c cs =>
      simp only [List.flatMap_cons] at h
      obtain ⟨hbc, hrest⟩ := List.append_inj h (by simp [hexByte_eq])
      rw [hexByte_injective hbc, ih hrest]

/-! ### Keys -/

/-- Two identities agree up to case: equal version and token, and name and culture equal once
lowered. -/
def Identity.AgreesUpToCase (a b : Identity) : Prop :=
  lower a.name = lower b.name ∧ a.version = b.version ∧ a.token = b.token ∧
    lower a.culture = lower b.culture

instance (a b : Identity) : Decidable (a.AgreesUpToCase b) :=
  inferInstanceAs (Decidable (_ ∧ _ ∧ _ ∧ _))

theorem Identity.key_toList (a : Identity) :
    a.key.toList = (lower a.name).toList ++ '/' :: (a.version.render.toList ++
      '/' :: ((hexOfBytes a.token).toList ++ '/' :: (lower a.culture).toList)) := by
  simp [Identity.key, List.append_assoc]

theorem Identity.key_eq_of_agrees {a b : Identity} (h : a.AgreesUpToCase b) : a.key = b.key := by
  obtain ⟨hname, hversion, htoken, hculture⟩ := h
  simp only [Identity.key, hname, hversion, htoken, hculture]

/-- For identities whose names hold no slash, the key tells exactly the identities that agree
up to case. -/
theorem Identity.key_eq_iff {a b : Identity} (ha : '/' ∉ a.name.toList)
    (hb : '/' ∉ b.name.toList) : a.key = b.key ↔ a.AgreesUpToCase b := by
  refine ⟨fun h => ?_, key_eq_of_agrees⟩
  have h := congrArg String.toList h
  rw [key_toList, key_toList] at h
  obtain ⟨hname, h⟩ := append_sep_inj (not_slash_lower ha) (not_slash_lower hb) h
  obtain ⟨hversion, h⟩ :=
    append_sep_inj (ModuleCache.not_slash_render _) (ModuleCache.not_slash_render _) h
  obtain ⟨htoken, hculture⟩ :=
    append_sep_inj (ModuleCache.not_slash_hexOfBytes _) (ModuleCache.not_slash_hexOfBytes _) h
  exact ⟨String.toList_inj.1 hname, Version4.render_injective (String.toList_inj.1 hversion),
    hexOfBytes_injective (String.toList_inj.1 htoken), String.toList_inj.1 hculture⟩

/-- A slash in a name lets a key's fields shift: two modules that differ in name and culture
share a key. -/
theorem slashed_name_shares_key :
    Identity.key ⟨"a/0.0.0.0/", Version4.zero, [], ""⟩ =
        Identity.key ⟨"a", Version4.zero, [], "0.0.0.0//"⟩ ∧
      ¬ Identity.AgreesUpToCase ⟨"a/0.0.0.0/", Version4.zero, [], ""⟩
        ⟨"a", Version4.zero, [], "0.0.0.0//"⟩ := by
  decide

/-! ### The alias table and the loader's memo -/

namespace Assembler.AliasTable

theorem aliasAt_injective : Function.Injective aliasAt := by
  intro i j h
  have h : (toString (i + 1)).toList = (toString (j + 1)).toList := by
    simpa [aliasAt] using congrArg String.toList h
  rw [Nat.toString_eq_repr, Nat.toString_eq_repr, Nat.toList_repr, Nat.toList_repr] at h
  have hsucc := toDigits_injective h
  omega

theorem position?_congr (t : AliasTable) {a b : Identity} (h : b.key = a.key) :
    t.position? b = t.position? a := by
  simp only [position?, h]

/-- Resolving a module other than the base library gives the alias of its position, and
leaves it at that position. -/
theorem resolve_names (t : AliasTable) (a : Identity) :
    ∃ i, (t.resolve a false).1 = aliasAt i ∧ (t.resolve a false).2.position? a = some i := by
  cases hpos : t.position? a with
  | some i => exact ⟨i, by simp [resolve, hpos]⟩
  | none =>
    refine ⟨t.externs.length, by simp [resolve, hpos], ?_⟩
    have hnone : t.externs.findIdx? (·.key == a.key) = none := hpos
    simp [resolve, position?, List.findIdx?_append, hnone]

/-- Once a module holds position `i`, another module gets the alias of `i` exactly when it has
the same key. -/
theorem resolve_aliasAt_iff {t : AliasTable} {a : Identity} {i : Nat}
    (hpos : t.position? a = some i) (b : Identity) :
    (t.resolve b false).1 = aliasAt i ↔ b.key = a.key := by
  obtain ⟨hi, hkey, -⟩ := List.findIdx?_eq_some_iff_getElem.1 hpos
  constructor
  · intro h
    cases hb : t.position? b with
    | some j =>
      obtain ⟨hj, hjkey, -⟩ := List.findIdx?_eq_some_iff_getElem.1 hb
      have hji : j = i := aliasAt_injective (by simpa [resolve, hb] using h)
      subst hji
      simp only [beq_iff_eq] at hkey hjkey
      rw [← hjkey, hkey]
    | none =>
      -- A new module gets the alias of the end of the table, past every held position.
      have hlen : t.externs.length = i := aliasAt_injective (by simpa [resolve, hb] using h)
      omega
  · intro h
    simp [resolve, position?_congr t h, hpos]

theorem resolve_twice_alias_eq_iff (t : AliasTable) (a b : Identity) :
    ((t.resolve a false).2.resolve b false).1 = (t.resolve a false).1 ↔ b.key = a.key := by
  obtain ⟨i, halias, hpos⟩ := resolve_names t a
  rw [halias]
  exact resolve_aliasAt_iff hpos b

end Assembler.AliasTable

theorem lookup_key_cons (a b : Identity) (r : BoundReference) (known : Bindings) :
    ((a.key, r) :: known).lookup b.key = if b.key = a.key then some r else known.lookup b.key := by
  rw [List.lookup_cons]
  by_cases h : b.key = a.key
  · simp [h]
  · simp [beq_eq_false_iff_ne.2 h, h]

/-- Two modules other than the base library, with names free of slashes, share a key, an
alias of the program after the first is resolved, and a binding of the loader's memo after
the first is bound, exactly when they agree up to case. -/
theorem key_merges_only_case_variants (a b : Identity) (ha : '/' ∉ a.name.toList)
    (hb : '/' ∉ b.name.toList) :
    (a.key = b.key ↔ a.AgreesUpToCase b) ∧
      (∀ t : Assembler.AliasTable,
        ((t.resolve a false).2.resolve b false).1 = (t.resolve a false).1 ↔
          a.AgreesUpToCase b) ∧
      ∀ (r : BoundReference) (known : Bindings),
        ((a.key, r) :: known).lookup b.key =
          if a.AgreesUpToCase b then some r else known.lookup b.key := by
  have hkey := Identity.key_eq_iff ha hb
  refine ⟨hkey, fun t => ?_, fun r known => ?_⟩
  · rw [Assembler.AliasTable.resolve_twice_alias_eq_iff, eq_comm, hkey]
  · rw [lookup_key_cons]
    simp only [eq_comm (a := b.key), hkey]

theorem case_variants_share_key :
    '/' ∉ "Lib".toList ∧ '/' ∉ "LIB".toList ∧
      Identity.key ⟨"Lib", ⟨1, 0, 0, 0⟩, [0xb7], "de"⟩ =
        Identity.key ⟨"LIB", ⟨1, 0, 0, 0⟩, [0xb7], "DE"⟩ :=
  ⟨by decide, by decide,
    (key_merges_only_case_variants ⟨"Lib", ⟨1, 0, 0, 0⟩, [0xb7], "de"⟩
      ⟨"LIB", ⟨1, 0, 0, 0⟩, [0xb7], "DE"⟩ (by decide) (by decide)).1.2
      ⟨by decide, rfl, rfl, by decide⟩⟩

end NativeExports

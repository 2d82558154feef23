import Mathlib
import NativeExports.Cache
import NativeExports.Proofs.ImageCodec
/-!
Purpose: what the index of a module cache says after a run of puts, and that it reads back
from its file.

Identities are put in order; `lastWithKey ids k` is the one put last under the key `k`.  An
index tracks the identities put (`CacheIndex.Tracks`) when its entries are sorted by key with
no key twice, each entry carries the identity put last under its key and that identity's file,
and every key put has an entry.  Replacing an identity's entry is the step of a put
(`CacheIndex.insert`), and it keeps the index tracking the identities with the new one added
(`Tracks.insert`).

The index is written with every field, a missing token and an empty entry list as nil, and it
reads back as itself when its texts and byte strings are ones the format carries
(`decode_encode_index`).
-/

namespace NativeExports

open MessagePack

/-- The identity put last under a key, among identities put in order. -/
def lastWithKey (ids : List Identity) (k : String) : Option Identity :=
  ids.reverse.find? (·.key == k)

theorem lastWithKey_append_self (ids : List Identity) (a : Identity) :
    lastWithKey (ids ++ [a]) a.key = some a := by
  simp [lastWithKey]

theorem lastWithKey_append_of_ne (ids : List Identity) {a : Identity} {k : String}
    (hk : k ≠ a.key) : lastWithKey (ids ++ [a]) k = lastWithKey ids k := by
  have hne : (a.key == k) = false := by simpa using Ne.symm hk
  simp only [lastWithKey, List.reverse_append, List.reverse_singleton, List.singleton_append,
    List.find?_cons, hne]

/-- The identity put last under a key was put, and has that key. -/
theorem mem_of_lastWithKey {ids : List Identity} {k : String} {b : Identity}
    (h : lastWithKey ids k = some b) : b ∈ ids ∧ b.key = k := by
  have hmem := List.mem_of_find?_eq_some h
  have hkey := List.find?_some h
  exact ⟨List.mem_reverse.1 hmem, by simpa using hkey⟩

namespace CacheIndex

/-- An index that tracks the identities put into its cache in order: it is of the current
schema, its entries are sorted by key with no key twice, each carries the identity put last
under its key and that identity's file, and every key put has an entry. -/
structure Tracks (ids : List Identity) (idx : CacheIndex) : Prop where
  schema : idx.schema = cacheSchema
  sorted : idx.entries.Pairwise fun e f => e.identity.key < f.identity.key
  last : ∀ e ∈ idx.entries, lastWithKey ids e.identity.key = some e.identity
  file : ∀ e ∈ idx.entries, e.file = ModuleCache.entryFile e.identity
  complete : ∀ a ∈ ids, ∃ e ∈ idx.entries, e.identity.key = a.key

/-- The empty index tracks that nothing was put. -/
theorem tracks_empty : Tracks [] empty :=
  ⟨rfl, List.Pairwise.nil, fun _ h => absurd h List.not_mem_nil,
    fun _ h => absurd h List.not_mem_nil, fun _ h => absurd h List.not_mem_nil⟩

/-! ### Replacing an entry -/

/-- The entries after an insert: the old ones under other keys, and the new one. -/
theorem mem_insert {idx : CacheIndex} {a : Identity} {f : String} {e : CacheEntry} :
    e ∈ (idx.insert a f).entries ↔ (e ∈ idx.entries ∧ e.identity.key ≠ a.key) ∨ e = ⟨a, f⟩ := by
  simp [insert, List.mem_mergeSort]

theorem length_insert_le (idx : CacheIndex) (a : Identity) (f : String) :
    (idx.insert a f).entries.length ≤ idx.entries.length + 1 := by
  simp only [insert, List.length_mergeSort, List.length_append, List.length_singleton]
  have := List.length_filter_le (fun e : CacheEntry => e.identity.key != a.key) idx.entries
  omega

/-- Keys sorted one way or the other and never equal are sorted strictly. -/
theorem lt_of_le_of_ne_key {x y : String} (hle : x ≤ y) (hne : x ≠ y) : x < y :=
  String.not_le.1 fun hyx => hne (String.le_antisymm hle hyx)

/-- An insert keeps the entries sorted by key with no key twice. -/
theorem sorted_insert {idx : CacheIndex} (a : Identity) (f : String)
    (h : idx.entries.Pairwise fun e f => e.identity.key < f.identity.key) :
    (idx.insert a f).entries.Pairwise fun e f => e.identity.key < f.identity.key := by
  let kept := idx.entries.filter fun e => e.identity.key != a.key
  -- the merged list is sorted by `≤`, and a permutation of a list with distinct keys
  have hle : (idx.insert a f).entries.Pairwise fun e f => e.identity.key ≤ f.identity.key := by
    have := @List.pairwise_mergeSort CacheEntry
      (fun e f => decide (e.identity.key ≤ f.identity.key))
      (fun _ _ _ h₁ h₂ => by simpa using String.le_trans (by simpa using h₁) (by simpa using h₂))
      (fun e f => by simpa using String.le_total e.identity.key f.identity.key)
      (kept ++ [CacheEntry.mk a f])
    simpa [insert] using this
  have hdistinct : (kept ++ [CacheEntry.mk a f]).Pairwise fun e f => e.identity.key ≠ f.identity.key := by
    rw [List.pairwise_append]
    refine ⟨(h.filter _).imp String.ne_of_lt, List.pairwise_singleton _ _, ?_⟩
    intro e he g hg
    rw [List.mem_singleton] at hg
    subst hg
    simpa using (List.mem_filter.1 he).2
  have hperm : (idx.insert a f).entries.Pairwise fun e f => e.identity.key ≠ f.identity.key :=
    ((List.mergeSort_perm _ _).pairwise_iff fun h => Ne.symm h).2 hdistinct
  exact (hle.and hperm).imp fun ⟨hle, hne⟩ => lt_of_le_of_ne_key hle hne

/-- Replacing the entry of an identity's key keeps the index tracking the identities put, with
that identity added. -/
theorem Tracks.insert {ids : List Identity} {idx : CacheIndex} (h : Tracks ids idx)
    (a : Identity) : Tracks (ids ++ [a]) (idx.insert a (ModuleCache.entryFile a)) := by
  refine ⟨h.schema, sorted_insert a _ h.sorted, fun e he => ?_, fun e he => ?_, ?_⟩
  · rcases mem_insert.1 he with ⟨hold, hne⟩ | rfl
    · rw [lastWithKey_append_of_ne ids hne]
      exact h.last e hold
    · exact lastWithKey_append_self ids a
  · rcases mem_insert.1 he with ⟨hold, -⟩ | rfl
    · exact h.file e hold
    · rfl
  · intro b hb
    rcases List.mem_append.1 hb with hb | hb
    · by_cases hk : b.key = a.key
      · exact ⟨⟨a, _⟩, mem_insert.2 (.inr rfl), hk.symm⟩
      · obtain ⟨e, he, hek⟩ := h.complete b hb
        have hne : e.identity.key ≠ a.key := by
          rw [hek]
          exact hk
        exact ⟨e, mem_insert.2 (.inl ⟨he, hne⟩), hek⟩
    · rw [List.mem_singleton] at hb
      subst hb
      exact ⟨⟨b, _⟩, mem_insert.2 (.inr rfl), rfl⟩

end CacheIndex

/-! ### Reading the index back -/

/-- An entry the format carries: its identity and its file read back. -/
def CacheEntry.Fits (e : CacheEntry) : Prop :=
  e.identity.Fits ∧ Text.Fits e.file

section Reading

variable {lib : Library} (hlib : lib.Lawful)
include hlib

/-- A token is written as nil when empty and as a byte string otherwise, and reads back. -/
theorem reads_tokenBytes (t : List UInt8) (h : t.length < 2 ^ 32) :
    Reads lib.bytesValue (if t.isEmpty then lib.nil else lib.binary t) t := by
  cases t with
  | nil => exact hlib.reads_nil_bytes
  | cons b bs => exact hlib.reads_binary _ h

/-- An identity with every field written reads back. -/
theorem reads_identityBytes (fuel : Nat) (a : Identity) (ha : a.Fits) :
    Reads (Identity.read lib fuel Identity.blank) (CacheIndex.identityBytes lib a) a := by
  obtain ⟨name, version, token, culture⟩ := a
  obtain ⟨hname, htoken, hculture⟩ := ha
  refine hlib.reads_record fuel _ _ _ _ _ ?_ (Nat.lt_of_le_of_lt (length_present_le _) (by simp))
  refine Walks.written (Text.fits_of_ascii (by decide) (by decide)) rfl
    (reads_update _ (hlib.reads_text name hname)) ?_
  refine Walks.written (Text.fits_of_ascii (by decide) (by decide)) rfl
    (reads_update _ (reads_version hlib version _)) ?_
  refine Walks.written (Text.fits_of_ascii (by decide) (by decide)) rfl
    (reads_update _ (reads_tokenBytes hlib token htoken)) ?_
  refine Walks.written (Text.fits_of_ascii (by decide) (by decide)) rfl
    (reads_update _ (hlib.reads_text culture hculture)) ?_
  exact Walks.nil _

/-- An entry reads back over the blank entry. -/
theorem reads_entryBytes (fuel : Nat) (e : CacheEntry) (he : e.Fits) :
    Reads (CacheIndex.readEntry lib fuel ⟨Identity.blank, ""⟩) (CacheIndex.entryBytes lib e) e := by
  obtain ⟨a, file⟩ := e
  obtain ⟨ha, hfile⟩ := he
  refine hlib.reads_record fuel _ _ _ _ _ ?_ (Nat.lt_of_le_of_lt (length_present_le _) (by simp))
  refine Walks.written (Text.fits_of_ascii (by decide) (by decide)) rfl
    (reads_update _ (reads_identityBytes hlib fuel a ha)) ?_
  refine Walks.written (Text.fits_of_ascii (by decide) (by decide)) rfl
    (reads_update _ (hlib.reads_text file hfile)) ?_
  exact Walks.nil _

/-- The entry list, nil when empty, reads back as the entries with no storage left over. -/
theorem reads_entriesValue (fuel : Nat) (es : List CacheEntry) (h : ∀ e ∈ es, e.Fits)
    (hlen : es.length < 2 ^ 32) :
    Reads (lib.backedValue (CacheIndex.readEntry lib fuel) ⟨Identity.blank, ""⟩ Backed.empty)
      (if es.isEmpty then lib.nil else lib.array (es.map (CacheIndex.entryBytes lib)))
      ⟨es, []⟩ := by
  cases es with
  | nil => exact hlib.reads_nil_list _ _ _
  | cons e es =>
    exact hlib.reads_list_self _ (e :: es) hlen fun x hx => reads_entryBytes hlib fuel x (h x hx)

theorem reads_indexSchema (n : UInt16) (i : UInt16 × Backed CacheEntry) :
    Reads (do pure ((← lib.unsigned).toUInt16, i.2)) (lib.uint16 n) (n, i.2) :=
  (reads_update (fun x : UInt64 => (x.toUInt16, i.2)) (hlib.reads_uint16 n)).of_eq rfl
    (by simp)

/-- The record of an index reads back as its schema and entries. -/
theorem reads_index (fuel : Nat) (idx : CacheIndex) (h : ∀ e ∈ idx.entries, e.Fits)
    (hlen : idx.entries.length < 2 ^ 32) :
    Reads (CacheIndex.read lib fuel (cacheSchema, Backed.empty)) (CacheIndex.encodeWith lib idx)
      (idx.schema, ⟨idx.entries, []⟩) := by
  refine hlib.reads_record fuel _ _ _ _ _ ?_ (Nat.lt_of_le_of_lt (length_present_le _) (by simp))
  refine Walks.written (Text.fits_of_ascii (by decide) (by decide)) rfl
    (reads_indexSchema hlib idx.schema _) ?_
  refine Walks.written (Text.fits_of_ascii (by decide) (by decide)) rfl
    (reads_update _ (reads_entriesValue hlib fuel idx.entries h hlen)) ?_
  exact Walks.nil _

/-- An index whose entries the format carries, fewer than `2 ^ 32` of them, decodes from its
encoding. -/
theorem decodeWith_encodeWith_index (idx : CacheIndex) (h : ∀ e ∈ idx.entries, e.Fits)
    (hlen : idx.entries.length < 2 ^ 32) :
    CacheIndex.decodeWith lib (CacheIndex.encodeWith lib idx) = .ok idx := by
  have hread := reads_index hlib ((CacheIndex.encodeWith lib idx).length + 1) idx h hlen []
  rw [List.append_nil] at hread
  unfold CacheIndex.decodeWith
  rw [hread]
  rfl

end Reading

/-- The tool's index decodes from its encoding, the linked library being lawful. -/
theorem decode_encode_index (idx : CacheIndex) (h : ∀ e ∈ idx.entries, e.Fits)
    (hlen : idx.entries.length < 2 ^ 32) : CacheIndex.decode idx.encode = .ok idx :=
  decodeWith_encodeWith_index v5_lawful idx h hlen

end NativeExports

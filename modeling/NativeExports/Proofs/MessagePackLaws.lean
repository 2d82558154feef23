import Mathlib
import NativeExports.MessagePack.Library
import NativeExports.Proofs.ExceptSteps
/-!
Purpose: what the codecs need of a MessagePack library, and the facts about texts and readers
in which that need is stated.

A text stands for the bytes `Text.toBytes` writes for it, and reads back from them
(`Text.ofBytes_toBytes`); the format carries a text of fewer than `2 ^ 32` bytes
(`Text.Fits`).  `Reads r bytes a` says that the reader `r`, started on `bytes` followed by
anything, gives `a` and leaves exactly what followed; readers that read back are closed under
`pure` and `>>=`.  `Walks fields ws r r'` says how the fields of a struct, written in order
with some left out, take the value being read from `r` to `r'`.

`Library.Lawful` is the contract: every kind of value reads back as written, within the limits
of the format (`2 ^ 32` elements or bytes), and a struct is written as a map keyed by field
name that leaves out its zero fields and is read back field by field into its previous value.
The lemmas after it are what any lawful library gives the codecs: a list of values that read
back reads back, and what is written inside a struct is shorter than the struct.
-/

/-! ### Texts and their bytes -/

theorem ByteArray.toList_loop (bs : ByteArray) (i : Nat) (r : List UInt8) :
    ByteArray.toList.loop bs i r = r.reverse ++ bs.data.toList.drop i := by
  fun_induction ByteArray.toList.loop bs i r with
  | case1 i r hi ih =>
    have hlen : i < bs.data.toList.length := by simpa using hi
    have hget : bs.get! i = bs.data[i]! := by cases bs; rfl
    rw [ih, List.drop_eq_getElem_cons (i := i) hlen, hget, getElem!_pos bs.data i hi]
    simp
  | case2 i r hi =>
    rw [List.drop_eq_nil_of_le (by simpa using Nat.le_of_not_lt hi)]
    simp

theorem ByteArray.toList_eq (bs : ByteArray) : bs.toList = bs.data.toList := by
  unfold ByteArray.toList
  rw [ByteArray.toList_loop]
  rfl

namespace NativeExports.Text

/-- The UTF-8 form of a text reads back as the text. -/
theorem ofBytes_toUTF8 (s : String) : ofBytes s.toUTF8.toList = s := by
  have hbytes : s.toUTF8.toList = s.toByteArray.data.toList := by simp [ByteArray.toList_eq]
  rw [hbytes, ofBytes]
  have hvalid : String.fromUTF8? ⟨s.toByteArray.data.toList.toArray⟩ = some s := by
    simp [String.fromUTF8?, s.isValidUTF8, String.fromUTF8]
  rw [hvalid]

/-- Every text reads back from the bytes written for it: its stray bytes as themselves when
those read back, and its UTF-8 form otherwise. -/
theorem ofBytes_toBytes (s : String) : ofBytes (toBytes s) = s := by
  unfold toBytes
  split
  · dsimp only
    split
    · assumption
    · exact ofBytes_toUTF8 s
  · exact ofBytes_toUTF8 s

/-- The bytes of a text with no character of the stray-byte block are its UTF-8 form. -/
theorem toBytes_of_no_stray {s : String} (h : ∀ c ∈ s.toList, stray? c = none) :
    toBytes s = s.toByteArray.data.toList := by
  have hutf : s.toByteArray.data.toList = s.toList.flatMap String.utf8EncodeChar := by
    rw [← String.utf8Encode_toList, List.utf8Encode, List.data_toByteArray, List.toList_toArray]
  -- with no stray byte, writing character by character is writing UTF-8
  have hraw : s.toList.flatMap charBytes = s.toByteArray.data.toList := by
    rw [hutf, List.flatMap_def, List.flatMap_def]
    refine congrArg List.flatten (List.map_congr_left fun c hc => ?_)
    rw [charBytes, h c hc]
    show (String.singleton c).toByteArray.toList = _
    rw [String.singleton_eq_ofList, String.toByteArray_ofList, List.utf8Encode_singleton,
      ByteArray.toList_eq, List.data_toByteArray, List.toList_toArray]
  unfold toBytes
  split
  · dsimp only
    rw [hraw]
    split
    · rfl
    · simp [ByteArray.toList_eq]
  · simp [ByteArray.toList_eq]

/-- A text the message format carries: fewer than `2 ^ 32` bytes. -/
def Fits (t : String) : Prop := (toBytes t).length < 2 ^ 32

/-- An ASCII character is one byte of UTF-8. -/
theorem utf8EncodeChar_ascii {c : Char} (h : c.toNat < 128) :
    String.utf8EncodeChar c = [c.toNat.toUInt8] := by
  rw [String.utf8EncodeChar, if_pos (show c.val.toNat ≤ 0x7f by
    simp only [Char.toNat] at h; omega)]
  rfl

theorem stray?_of_ascii {c : Char} (h : c.toNat < 128) : stray? c = none := by
  unfold stray?
  split
  · rename_i hs
    simp only [strayBase] at hs
    omega
  · rfl

/-- An ASCII text is written one byte a character. -/
theorem toBytes_ascii {s : String} (h : ∀ c ∈ s.toList, c.toNat < 128) :
    toBytes s = s.toList.map fun c => c.toNat.toUInt8 := by
  rw [toBytes_of_no_stray fun c hc => stray?_of_ascii (h c hc), ← String.utf8Encode_toList,
    List.utf8Encode, List.data_toByteArray, List.toList_toArray, List.flatMap_def,
    List.map_congr_left fun c hc => utf8EncodeChar_ascii (h c hc), ← List.flatMap_def,
    ← List.map_eq_flatMap]

theorem fits_of_ascii {s : String} (h : s.toList.all (fun c => c.toNat < 128) = true)
    (hlen : s.toList.length < 2 ^ 32) : Fits s := by
  have hascii : ∀ c ∈ s.toList, c.toNat < 128 := by simpa using h
  rw [Fits, toBytes_ascii hascii, List.length_map]
  exact hlen

end NativeExports.Text

namespace NativeExports.MessagePack

/-! ### Readers that read back -/

/-- The reader `r` reads `bytes` as `a`: from `bytes` followed by anything, it gives `a` and
leaves what followed. -/
def Reads {α : Type} (r : Reader α) (bytes : List UInt8) (a : α) : Prop :=
  ∀ rest, r.run (bytes ++ rest) = .ok (a, rest)

namespace Reads

variable {α β : Type}

theorem pure (a : α) : Reads (Pure.pure a : Reader α) [] a := fun _ => rfl

theorem bind {x : Reader α} {f : α → Reader β} {b₁ b₂ : List UInt8} {a : α} {c : β}
    (hx : Reads x b₁ a) (hf : Reads (f a) b₂ c) : Reads (x >>= f) (b₁ ++ b₂) c := by
  intro rest
  have h₁ := hx (b₂ ++ rest)
  rw [← List.append_assoc] at h₁
  simp only [StateT.run_bind, h₁]
  exact hf rest

theorem map (g : α → β) {x : Reader α} {b : List UInt8} {a : α} (hx : Reads x b a) :
    Reads (g <$> x) b (g a) := by
  intro rest
  simp only [StateT.run_map, hx rest]
  rfl

/-- A reader that reads back reads the same bytes however they are written. -/
theorem of_eq {r : Reader α} {b b' : List UInt8} {a a' : α} (h : Reads r b a) (hb : b = b')
    (ha : a = a') : Reads r b' a' := by
  subst hb ha
  exact h

end Reads

/-- A field whose reader reads a value and puts it in the record. -/
theorem reads_update {α β : Type} (f : β → α) {x : Reader β} {b : List UInt8} {a : β}
    (h : Reads x b a) : Reads (do pure (f (← x))) b (f a) :=
  (Reads.bind h (Reads.pure (f a))).of_eq (List.append_nil b) rfl

/-- Elements each read from the zero value read back in order. -/
theorem reads_elements {α β : Type} {elem : α → Reader α} {zero : α} (enc : β → List UInt8)
    (val : β → α) :
    ∀ xs : List β, (∀ x ∈ xs, Reads (elem zero) (enc x) (val x)) →
      Reads (elements elem zero xs.length []) (xs.flatMap enc) (xs.map val)
  | [], _ => Reads.pure []
  | x :: xs, h =>
    (Reads.bind (h x List.mem_cons_self) (Reads.bind
      (reads_elements enc val xs fun y hy => h y (List.mem_cons_of_mem _ hy))
      (Reads.pure (val x :: xs.map val)))).of_eq (by simp) rfl

/-! ### Structs -/

@[simp] theorem present_nil : present [] = [] := rfl

@[simp] theorem present_absent (k : String) (ws : List Field) :
    present ((k, none) :: ws) = present ws := rfl

@[simp] theorem present_written (k : String) (v : List UInt8) (ws : List Field) :
    present ((k, some v) :: ws) = (k, v) :: present ws := rfl

theorem length_present_le (ws : List Field) : (present ws).length ≤ ws.length :=
  List.length_filterMap_le _ _

section Walks

variable {α : Type} {fields : List (FieldReader α)}

/-- How the fields of a struct, written in order with some left out, take the value being read
from `r` to `r'`: a field left out leaves it as it is, and a written field, whose name the
format carries, goes through the reader its name selects. -/
inductive Walks (fields : List (FieldReader α)) : List Field → α → α → Prop where
  | nil (r : α) : Walks fields [] r r
  | absent {k : String} {ws : List Field} {r r' : α} :
      Walks fields ws r r' → Walks fields ((k, none) :: ws) r r'
  | written {k : String} {v : List UInt8} {ws : List Field} {upd : α → Reader α} {r r₁ r' : α} :
      Text.Fits k → fields.find? (·.1 == k) = some (k, upd) →
      Reads (upd r) v r₁ → Walks fields ws r₁ r' → Walks fields ((k, some v) :: ws) r r'

/-- A field the writer keeps only when it is not zero: when kept it goes through its reader,
and when left out the record already holds what the reader would give. -/
theorem Walks.keep {k : String} {keep : Bool} {bytes : List UInt8} {ws : List Field}
    {upd : α → Reader α} {r r₁ r' : α} (hname : Text.Fits k)
    (hfind : fields.find? (·.1 == k) = some (k, upd)) (hread : Reads (upd r) bytes r₁)
    (hskip : keep = false → r₁ = r) (hrest : Walks fields ws r₁ r') :
    Walks fields ((k, keepIf keep bytes) :: ws) r r' := by
  cases keep
  · rw [hskip rfl] at hrest
    exact Walks.absent hrest
  · exact Walks.written hname hfind hread hrest

/-- A field the writer may leave out: when written it goes through its reader, and when left
out the record already holds what the reader would give. -/
theorem Walks.opt {k : String} {w : Option (List UInt8)} {ws : List Field} {upd : α → Reader α}
    {r r₁ r' : α} (hname : Text.Fits k)
    (hfind : fields.find? (·.1 == k) = some (k, upd)) (hread : ∀ v, w = some v → Reads (upd r) v r₁)
    (hskip : w = none → r₁ = r) (hrest : Walks fields ws r₁ r') :
    Walks fields ((k, w) :: ws) r r' := by
  cases w with
  | none =>
    rw [hskip rfl] at hrest
    exact Walks.absent hrest
  | some v => exact Walks.written hname hfind (hread v rfl) hrest

end Walks

/-! ### The contract of a library -/

namespace Library

/-- What the codecs need of a MessagePack library.  Each law stands for a documented behaviour
of the library the tool links. -/
structure Lawful (lib : Library) : Prop where
  /-- A one-byte code reads back as a number. -/
  reads_uint8 : ∀ n : UInt8, Reads lib.unsigned (lib.uint8 n) n.toUInt64
  reads_uint16 : ∀ n : UInt16, Reads lib.unsigned (lib.uint16 n) n.toUInt64
  /-- A 32-bit number reads back as the 64-bit number of the same value. -/
  reads_int32 : ∀ n : Int32, Reads lib.signed (lib.int32 n) n.toInt64
  reads_int64 : ∀ n : Int64, Reads lib.signed (lib.int64 n) n
  reads_int : ∀ n : Int64, Reads lib.signed (lib.int n) n
  reads_bool : ∀ b : Bool, Reads lib.boolean (lib.bool b) b
  /-- A text of fewer than `2 ^ 32` bytes reads back. -/
  reads_text : ∀ s : String, Text.Fits s → Reads lib.textValue (lib.text s) s
  reads_binary : ∀ bs : List UInt8, bs.length < 2 ^ 32 → Reads lib.bytesValue (lib.binary bs) bs
  /-- Nil reads as no bytes. -/
  reads_nil_bytes : Reads lib.bytesValue lib.nil []
  reads_arrayLength : ∀ n : Nat, n < 2 ^ 32 → Reads lib.arrayLength (lib.arrayHeader n) (some n)
  /-- A list of texts reads back, whatever the list before. -/
  reads_texts : ∀ (old xs : List String), xs.length < 2 ^ 32 → (∀ x ∈ xs, Text.Fits x) →
    Reads (lib.textsValue old) (lib.array (xs.map lib.text)) xs
  /-- A list read over an empty one reads its elements in order, each over the zero value, and
  keeps nothing spare. -/
  reads_list : ∀ {α β : Type} (elem : α → Reader α) (zero : α) (enc : β → List UInt8)
    (val : β → α) (xs : List β), xs.length < 2 ^ 32 →
    (∀ x ∈ xs, Reads (elem zero) (enc x) (val x)) →
    Reads (lib.backedValue elem zero Backed.empty) (lib.array (xs.map enc)) ⟨xs.map val, []⟩
  /-- Nil reads as a list with no elements and no storage, whatever the list before. -/
  reads_nil_list : ∀ {α : Type} (elem : α → Reader α) (zero : α) (old : Backed α),
    Reads (lib.backedValue elem zero old) lib.nil Backed.empty
  /-- Nil reads as an absent value. -/
  reads_absent : ∀ {α : Type} (elem : α → Reader α) (zero : α) (old : Option α),
    Reads (lib.optionValue elem zero old) lib.nil none
  /-- A struct reads as a present value, read over the previous value or the zero value. -/
  reads_present : ∀ {α : Type} (elem : α → Reader α) (zero : α) (old : Option α)
    (ws : List Field) (a : α), Reads (elem (old.getD zero)) (lib.record ws) a →
    Reads (lib.optionValue elem zero old) (lib.record ws) (some a)
  /-- A struct is written as a map from the names of its written fields to their values, and
  is read back field by field, each through the reader its name selects, into the value it
  had. -/
  reads_record : ∀ {α : Type} (fuel : Nat) (fields : List (FieldReader α)) (zero r r' : α)
    (ws : List Field), Walks fields ws r r' → (present ws).length < 2 ^ 32 →
    Reads (lib.recordValue fuel fields zero r) (lib.record ws) r'
  /-- The value of a written field is shorter than the struct that holds it. -/
  field_shorter : ∀ (ws : List Field) (k : String) (v : List UInt8), (k, some v) ∈ ws →
    v.length < (lib.record ws).length

theorem array_map {β : Type} (lib : Library) (xs : List β) (enc : β → List UInt8) :
    lib.array (xs.map enc) = lib.arrayHeader xs.length ++ xs.flatMap enc := by
  simp [array, List.flatMap_def]

/-- A struct field is left out exactly when all its own fields are. -/
theorem recordField_eq_none {lib : Library} {ws : List Field} :
    lib.recordField ws = none ↔ present ws = [] := by
  unfold recordField
  split <;> simp_all

theorem recordField_eq_some {lib : Library} {ws : List Field} {v : List UInt8}
    (h : lib.recordField ws = some v) : v = lib.record ws := by
  unfold recordField at h
  split at h
  · cases h
  · cases h
    rfl

/-- What one element writes is no longer than what all of them write. -/
theorem length_le_flatMap {β : Type} (f : β → List UInt8) {x : β} :
    ∀ {xs : List β}, x ∈ xs → (f x).length ≤ (xs.flatMap f).length
  | y :: ys, hx => by
    rw [List.flatMap_cons, List.length_append]
    rcases List.mem_cons.1 hx with rfl | hx
    · omega
    · have := length_le_flatMap f hx
      omega

namespace Lawful

variable {lib : Library} (hlib : lib.Lawful)
include hlib

/-- A list of elements that read back as themselves reads back as itself. -/
theorem reads_list_self {α : Type} {elem : α → Reader α} {zero : α} (enc : α → List UInt8)
    (xs : List α) (hlen : xs.length < 2 ^ 32) (h : ∀ x ∈ xs, Reads (elem zero) (enc x) x) :
    Reads (lib.backedValue elem zero Backed.empty) (lib.array (xs.map enc)) ⟨xs, []⟩ :=
  (hlib.reads_list elem zero enc id xs hlen h).of_eq rfl (by simp)

/-- An element of a written list is shorter than the struct that holds the list. -/
theorem length_lt_record_of_mem {β : Type} {ws : List Field} (k : String) {xs : List β}
    (enc : β → List UInt8) {x : β}
    (h : (k, keepIf (!xs.isEmpty) (lib.arrayHeader xs.length ++ xs.flatMap enc)) ∈ ws)
    (hx : x ∈ xs) : (enc x).length < (lib.record ws).length := by
  have hne : (!xs.isEmpty) = true := by
    cases xs with
    | nil => cases hx
    | cons _ _ => rfl
  rw [hne] at h
  have hout := hlib.field_shorter _ _ _ h
  have hin := length_le_flatMap enc hx
  rw [List.length_append] at hout
  omega

end Lawful

end Library

end NativeExports.MessagePack

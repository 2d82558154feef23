import Mathlib
import NativeExports.Proofs.MessagePackLaws
/-!
Purpose: the linked MessagePack library, `MessagePack.v5`, keeps the contract the codecs need
of a library (`v5_lawful`).

Its writer's forms and its reader's lenient decoding meet here one form at a time:

* numbers: a big-endian field of `n` bytes reads back its value modulo `256 ^ n`; each fixed
  form (`uint8`, `uint16`, `int32`, `int64`) and the compact form of a signed 64-bit number
  (`int`) reads back the number written;
* headers: a text, byte-string, array or map header of any length reads back that length
  modulo `2 ^ 32`, the width of the longest header field, so a value of `2 ^ 32` or more
  elements or bytes does not read back;
* texts: a text reads back as the text its bytes spell, which is the text itself;
* lists, optional values and records: `elements` and `backedValue` read back arrays element
  by element, `optionValue` reads back nil and present values, and `recordValue` reads back a
  record one present field at a time.
-/

namespace NativeExports.MessagePack

theorem reads_code (c : UInt8) : Reads code [c] c := fun _ => rfl

theorem reads_take {n : Nat} {bs : List UInt8} (h : bs.length = n) : Reads (take n) bs bs := by
  intro rest
  subst h
  simp [take, StateT.run_bind]
  rfl

/-! ### Numbers -/

@[simp] theorem length_bigEndian : ∀ (n v : Nat), (bigEndian n v).length = n
  | 0, _ => rfl
  | n + 1, v => by simp [bigEndian, length_bigEndian n]

/-- Big-endian bytes spell their value modulo the power of 256 they can hold. -/
theorem ofBigEndian_bigEndian : ∀ (n v : Nat), ofBigEndian (bigEndian n v) = v % 256 ^ n
  | 0, v => by simp [bigEndian, ofBigEndian, Nat.mod_one]
  | n + 1, v => by
    have ih := ofBigEndian_bigEndian n (v / 256)
    have hb : ((v % 256).toUInt8).toNat = v % 256 := by simp
    simp only [ofBigEndian] at ih ⊢
    rw [bigEndian, List.foldl_append, ih, List.foldl_cons, List.foldl_nil, hb, Nat.pow_succ,
      Nat.mul_comm (256 ^ n) 256, Nat.mod_mul]
    omega

theorem reads_number (n v : Nat) : Reads (number n) (bigEndian n v) (v % 256 ^ n) :=
  (Reads.map ofBigEndian (reads_take (length_bigEndian n v))).of_eq rfl
    (ofBigEndian_bigEndian n v)

theorem bigEndian_one (m : Nat) : bigEndian 1 m = [m.toUInt8] := by
  simp only [bigEndian, List.nil_append, List.cons.injEq, and_true]
  apply UInt8.toNat_inj.1
  simp

/-- A reader that reads a big-endian field and returns a function of its value. -/
theorem reads_number_then {β : Type} {r : Reader β} {k : Nat} (f : Nat → β)
    (hr : r = (do pure (f (← number k)))) (m : Nat) :
    Reads r (bigEndian k m) (f (m % 256 ^ k)) := by
  rw [hr]
  exact (Reads.bind (reads_number k m) (Reads.pure (f (m % 256 ^ k)))).of_eq
    (List.append_nil _) rfl

/-! ### Integers -/

theorem integerAfter_fixnum {c : UInt8} (w : String) (h : isFixnum c = true) :
    integerAfter c w = pure (Int8.toInt64 c.toInt8).toUInt64 := by
  have hc : c ≠ 0xc0 := by
    rintro rfl
    revert h
    decide
  simp [integerAfter, hc, h]

theorem reads_unsigned {c : UInt8} {bytes : List UInt8} {v : UInt64}
    (h : Reads (integerAfter c "uint64") bytes v) : Reads unsigned (c :: bytes) v :=
  Reads.bind (reads_code c) h

theorem reads_signed {c : UInt8} {bytes : List UInt8} {v : UInt64}
    (h : Reads (integerAfter c "int64") bytes v) : Reads signed (c :: bytes) v.toInt64 :=
  (Reads.bind (reads_code c) (Reads.bind h (Reads.pure v.toInt64))).of_eq
    (by simp) rfl

theorem reads_unsigned_uint8 (n : UInt8) : Reads unsigned (uint8 n) n.toUInt64 := by
  have h := reads_unsigned (reads_number_then (r := integerAfter 0xcc "uint64")
    (fun x => x.toUInt64) rfl n.toNat)
  refine h.of_eq (by simp [uint8, bigEndian_one]) ?_
  apply UInt64.toNat_inj.1
  simp

theorem reads_unsigned_uint16 (n : UInt16) : Reads unsigned (uint16 n) n.toUInt64 := by
  refine (reads_unsigned (reads_number_then (r := integerAfter 0xcd "uint64")
    (fun x => x.toUInt64) rfl n.toNat)).of_eq rfl ?_
  apply UInt64.toNat_inj.1
  simp

theorem reads_signed_int32 (n : Int32) : Reads signed (int32 n) n.toInt64 := by
  refine (reads_signed (reads_number_then (r := integerAfter 0xd2 "int64")
    (fun x => (Int32.toInt64 x.toUInt32.toInt32).toUInt64) rfl n.toUInt32.toNat)).of_eq rfl ?_
  simp

theorem reads_signed_int64 (n : Int64) : Reads signed (int64 n) n := by
  refine (reads_signed (reads_number_then (r := integerAfter 0xd3 "int64")
    (fun x => x.toUInt64) rfl n.toUInt64.toNat)).of_eq rfl ?_
  simp

/-- A fixnum code reads as the signed byte it is. -/
theorem reads_signed_fixnum {c : UInt8} (h : isFixnum c = true) :
    Reads signed [c] (Int8.toInt64 c.toInt8) := by
  have hpure : Reads (integerAfter c "int64") [] (Int8.toInt64 c.toInt8).toUInt64 := by
    rw [integerAfter_fixnum "int64" h]
    exact Reads.pure _
  exact (reads_signed hpure).of_eq rfl (by simp)

/-- A signed form whose code is followed by a big-endian field. -/
theorem reads_signed_field {c : UInt8} {k : Nat} (f : Nat → UInt64)
    (hc : integerAfter c "int64" = (do pure (f (← number k)))) (m : Nat) :
    Reads signed (c :: bigEndian k m) (f (m % 256 ^ k)).toInt64 :=
  reads_signed (reads_number_then f hc m)

/-- A non-negative signed number, written in the unsigned form of its value, reads back as a
signed one, whichever of the five unsigned forms the writer picks for it. -/
theorem reads_signed_uint {n : Int64} (h₀ : 0 ≤ n.toInt) : Reads signed (uint n.toInt.toNat) n := by
  have hhi := n.toInt_lt
  unfold uint
  by_cases h₁ : n.toInt.toNat ≤ 127
  · rw [if_pos h₁]
    refine (reads_signed_fixnum ?_).of_eq rfl ?_
    · simp [isFixnum, UInt8.le_iff_toNat_le, -Int64.toNat_toInt]
      omega
    · apply Int64.toInt_inj.1
      simp [Int.bmod, -Int64.toNat_toInt]
      omega
  rw [if_neg h₁]
  by_cases h₂ : n.toInt.toNat ≤ 255
  · rw [if_pos h₂, ← bigEndian_one]
    refine (reads_signed_field (c := 0xcc) (fun x => x.toUInt64) rfl _).of_eq rfl ?_
    apply Int64.toInt_inj.1
    simp [Int.bmod, -Int64.toNat_toInt]
    omega
  rw [if_neg h₂]
  by_cases h₃ : n.toInt.toNat ≤ 65535
  · rw [if_pos h₃]
    refine (reads_signed_field (c := 0xcd) (fun x => x.toUInt64) rfl _).of_eq rfl ?_
    apply Int64.toInt_inj.1
    simp [Int.bmod, -Int64.toNat_toInt]
    omega
  rw [if_neg h₃]
  by_cases h₄ : n.toInt.toNat ≤ 4294967295
  · rw [if_pos h₄]
    refine (reads_signed_field (c := 0xce) (fun x => x.toUInt64) rfl _).of_eq rfl ?_
    apply Int64.toInt_inj.1
    simp [Int.bmod, -Int64.toNat_toInt]
    omega
  rw [if_neg h₄]
  refine (reads_signed_field (c := 0xcf) (fun x => x.toUInt64) rfl _).of_eq rfl ?_
  apply Int64.toInt_inj.1
  simp [Int.bmod, -Int64.toNat_toInt]
  omega

/-- A signed 64-bit number in its compact form reads back, whichever of the ten forms the
writer picks for it. -/
theorem reads_signed_int (n : Int64) : Reads signed (int n) n := by
  have hlo := n.le_toInt
  unfold int
  dsimp only
  by_cases h₀ : 0 ≤ n.toInt
  · -- a non-negative number is written as an unsigned one
    rw [if_pos h₀]
    exact reads_signed_uint h₀
  -- a negative number is written as a negative fixnum or in two's complement
  rw [if_neg h₀]
  by_cases h₁ : -32 ≤ n.toInt
  · rw [if_pos h₁]
    refine (reads_signed_fixnum ?_).of_eq rfl ?_
    · simp [isFixnum, UInt8.le_iff_toNat_le, -Int64.toNat_toInt]
      omega
    · apply Int64.toInt_inj.1
      simp [Int.bmod, -Int64.toNat_toInt]
      omega
  rw [if_neg h₁]
  by_cases h₂ : -128 ≤ n.toInt
  · rw [if_pos h₂, ← bigEndian_one]
    refine (reads_signed_field (c := 0xd0) (fun x => (Int8.toInt64 x.toUInt8.toInt8).toUInt64)
      rfl _).of_eq rfl ?_
    apply Int64.toInt_inj.1
    simp [Int.bmod, -Int64.toNat_toInt]
    omega
  rw [if_neg h₂]
  by_cases h₃ : -32768 ≤ n.toInt
  · rw [if_pos h₃]
    refine (reads_signed_field (c := 0xd1)
      (fun x => (Int16.toInt64 x.toUInt16.toInt16).toUInt64) rfl _).of_eq rfl ?_
    apply Int64.toInt_inj.1
    simp [Int.bmod, -Int64.toNat_toInt]
    omega
  rw [if_neg h₃]
  by_cases h₄ : -2147483648 ≤ n.toInt
  · rw [if_pos h₄]
    refine (reads_signed_field (c := 0xd2)
      (fun x => (Int32.toInt64 x.toUInt32.toInt32).toUInt64) rfl _).of_eq rfl ?_
    apply Int64.toInt_inj.1
    simp [Int.bmod, -Int64.toNat_toInt]
    omega
  rw [if_neg h₄]
  refine (reads_signed_field (c := 0xd3) (fun x => x.toUInt64) rfl _).of_eq rfl ?_
  simp

/-! ### Booleans -/

theorem reads_boolean (b : Bool) : Reads boolean (bool b) b := by
  cases b
  · exact (Reads.bind (reads_code 0xc2) (Reads.pure false)).of_eq rfl rfl
  · exact (Reads.bind (reads_code 0xc3) (Reads.pure true)).of_eq rfl rfl

/-! ### Headers

Every header keeps its length in a field of at most four bytes, so it reads back the length
modulo `2 ^ 32`. -/

/-- A text header reads back its length. -/
theorem reads_textHeader (len : Nat) :
    ∃ c tail, textHeader len = c :: tail ∧ Reads (bytesLength c) tail (some (len % 2 ^ 32)) := by
  unfold textHeader
  split
  · rename_i h
    refine ⟨0xa0 + len.toUInt8, [], rfl, ?_⟩
    have hc : (0xa0 + len.toUInt8).toNat = 160 + len := by simp; omega
    have hlen : bytesLength (0xa0 + len.toUInt8) = pure (some (len % 2 ^ 32)) := by
      have hne : 0xa0 + len.toUInt8 ≠ 0xc0 := fun he => by
        have := congrArg UInt8.toNat he
        rw [hc] at this
        simp at this
        omega
      simp only [bytesLength, hne, if_false, UInt8.le_iff_toNat_le, hc]
      rw [if_pos (by simp; omega), show 160 + len - 160 = len % 2 ^ 32 by omega]
    rw [hlen]
    exact Reads.pure _
  split
  · rename_i h₁ h₂
    refine ⟨0xd9, bigEndian 1 len, by rw [bigEndian_one], ?_⟩
    refine (reads_number_then (r := bytesLength 0xd9) some rfl len).of_eq rfl ?_
    congr 1
    omega
  split
  · rename_i h₁ h₂ h₃
    refine ⟨0xda, bigEndian 2 len, rfl, ?_⟩
    refine (reads_number_then (r := bytesLength 0xda) some rfl len).of_eq rfl ?_
    congr 1
    omega
  · exact ⟨0xdb, bigEndian 4 len, rfl, reads_number_then (r := bytesLength 0xdb) some rfl len⟩

/-- A byte string's header reads back its length. -/
theorem reads_binaryHeader (bs : List UInt8) :
    ∃ c tail, binary bs = c :: tail ++ bs ∧
      Reads (bytesLength c) tail (some (bs.length % 2 ^ 32)) := by
  unfold binary
  split
  · rename_i h
    refine ⟨0xc4, bigEndian 1 bs.length, by rw [bigEndian_one], ?_⟩
    refine (reads_number_then (r := bytesLength 0xc4) some rfl bs.length).of_eq rfl ?_
    congr 1
    omega
  split
  · rename_i h₁ h₂
    refine ⟨0xc5, bigEndian 2 bs.length, rfl, ?_⟩
    refine (reads_number_then (r := bytesLength 0xc5) some rfl bs.length).of_eq rfl ?_
    congr 1
    omega
  · exact ⟨0xc6, bigEndian 4 bs.length, rfl,
      reads_number_then (r := bytesLength 0xc6) some rfl bs.length⟩

/-- An array header reads back its count. -/
theorem reads_arrayLength (n : Nat) : Reads arrayLength (arrayHeader n) (some (n % 2 ^ 32)) := by
  unfold arrayHeader
  split
  · rename_i h
    have hc : (0x90 + n.toUInt8).toNat = 144 + n := by simp; omega
    have hlen : arrayLengthAfter (0x90 + n.toUInt8) = pure (some (n % 2 ^ 32)) := by
      have hne : 0x90 + n.toUInt8 ≠ 0xc0 := fun he => by
        have := congrArg UInt8.toNat he
        rw [hc] at this
        simp at this
        omega
      simp only [arrayLengthAfter, hne, if_false, UInt8.le_iff_toNat_le, hc]
      rw [if_pos (by simp; omega), show 144 + n - 144 = n % 2 ^ 32 by omega]
    refine (Reads.bind (reads_code (0x90 + n.toUInt8)) ?_).of_eq (List.append_nil _) rfl
    rw [hlen]
    exact Reads.pure _
  split
  · rename_i h₁ h₂
    refine (Reads.bind (reads_code 0xdc)
      (reads_number_then (r := arrayLengthAfter 0xdc) some rfl n)).of_eq rfl ?_
    congr 1
    omega
  · exact Reads.bind (reads_code 0xdd) (reads_number_then (r := arrayLengthAfter 0xdd) some rfl n)

/-- A code that starts a map, and the count after it, read as a record sent as a map. -/
theorem reads_recordForm_of {c : UInt8} {len : Reader (Option Nat)} {tail : List UInt8} {n : Nat}
    (hmap : mapLengthAfter? c = some len) (hlen : Reads len tail (some n)) :
    Reads recordForm (c :: tail) (.keyed n) := by
  refine (Reads.bind (reads_code c) ?_).of_eq rfl rfl
  rw [hmap]
  exact (Reads.bind hlen (Reads.pure (RecordForm.keyed n))).of_eq (List.append_nil _) rfl

/-- A map header reads back as a record sent as a map of that many entries. -/
theorem reads_recordForm (n : Nat) : Reads recordForm (mapHeader n) (.keyed (n % 2 ^ 32)) := by
  unfold mapHeader
  split
  · rename_i h
    have hc : (0x80 + n.toUInt8).toNat = 128 + n := by simp; omega
    have hmap : mapLengthAfter? (0x80 + n.toUInt8) = some (pure (some (n % 2 ^ 32))) := by
      have hne : 0x80 + n.toUInt8 ≠ 0xc0 := fun he => by
        have := congrArg UInt8.toNat he
        rw [hc] at this
        simp at this
        omega
      simp only [mapLengthAfter?, hne, if_false, UInt8.le_iff_toNat_le, hc]
      rw [if_pos (by simp; omega), show 128 + n - 128 = n % 2 ^ 32 by omega]
    exact reads_recordForm_of hmap (Reads.pure _)
  split
  · rename_i h₁ h₂
    refine (reads_recordForm_of (c := 0xde) rfl
      (reads_number_then (r := do pure (some (← number 2))) some rfl n)).of_eq rfl ?_
    congr 1
    omega
  · exact reads_recordForm_of (c := 0xdf) rfl
      (reads_number_then (r := do pure (some (← number 4))) some rfl n)

/-! ### Texts and byte strings -/

theorem reads_rawBytes {c : UInt8} {tail bytes : List UInt8}
    (hlen : Reads (bytesLength c) tail (some bytes.length)) :
    Reads rawBytes (c :: tail ++ bytes) (some bytes) :=
  (Reads.bind (reads_code c) (Reads.bind hlen
    (Reads.bind (reads_take rfl) (Reads.pure (some bytes))))).of_eq (by simp) rfl

/-- A text of fewer than `2 ^ 32` bytes reads back as the text its bytes spell. -/
theorem reads_textValue (s : String) (h : (Text.toBytes s).length < 2 ^ 32) :
    Reads textValue (text s) (Text.ofBytes (Text.toBytes s)) := by
  obtain ⟨c, tail, hhead, hlen⟩ := reads_textHeader (Text.toBytes s).length
  rw [Nat.mod_eq_of_lt h] at hlen
  refine (Reads.bind (reads_rawBytes hlen)
    (Reads.pure (Text.ofBytes ((some (Text.toBytes s)).getD [])))).of_eq ?_ rfl
  simp only [text, hhead, List.cons_append, List.append_nil]

/-- A text the format carries reads back as itself. -/
theorem reads_textValue_of {t : String} (h : Text.Fits t) : Reads textValue (text t) t :=
  (reads_textValue t h).of_eq rfl (Text.ofBytes_toBytes t)

/-- A byte string of fewer than `2 ^ 32` bytes reads back. -/
theorem reads_bytesValue (bs : List UInt8) (h : bs.length < 2 ^ 32) :
    Reads bytesValue (binary bs) bs := by
  obtain ⟨c, tail, hbin, hlen⟩ := reads_binaryHeader bs
  rw [Nat.mod_eq_of_lt h] at hlen
  refine (Reads.bind (reads_rawBytes hlen) (Reads.pure ((some bs).getD []))).of_eq ?_ rfl
  simp only [hbin, List.cons_append, List.append_nil]

/-! ### Lists and optional values -/

section Lists

variable {α β : Type} {elem : α → Reader α} {zero : α}

theorem array_map (xs : List β) (enc : β → List UInt8) :
    array (xs.map enc) = arrayHeader xs.length ++ xs.flatMap enc := by
  simp [array, List.flatMap_def]

/-- A list of fewer than `2 ^ 32` elements, read over an empty list, reads back with nothing
spare. -/
theorem reads_backedValue (enc : β → List UInt8) (val : β → α) (xs : List β)
    (hlen : xs.length < 2 ^ 32) (h : ∀ x ∈ xs, Reads (elem zero) (enc x) (val x)) :
    Reads (backedValue elem zero Backed.empty) (arrayHeader xs.length ++ xs.flatMap enc)
      ⟨xs.map val, []⟩ := by
  have hcount := reads_arrayLength xs.length
  rw [Nat.mod_eq_of_lt hlen] at hcount
  refine (Reads.bind hcount (Reads.bind (reads_elements enc val xs h)
    (Reads.pure (Backed.mk (xs.map val)
      ((Backed.empty.items ++ Backed.empty.spare : List α).drop xs.length))))).of_eq
    (by simp) ?_
  simp [Backed.empty]

/-- A list written as an array reads back, over an empty list, with nothing spare. -/
theorem reads_backedList (enc : β → List UInt8) (val : β → α) (xs : List β)
    (hlen : xs.length < 2 ^ 32) (h : ∀ x ∈ xs, Reads (elem zero) (enc x) (val x)) :
    Reads (backedValue elem zero Backed.empty) (array (xs.map enc)) ⟨xs.map val, []⟩ :=
  (reads_backedValue enc val xs hlen h).of_eq (array_map xs enc).symm rfl

/-- A list of texts reads back. -/
theorem reads_textsValue (old : List String) (xs : List String) (hlen : xs.length < 2 ^ 32)
    (h : ∀ x ∈ xs, Text.Fits x) : Reads (textsValue old) (array (xs.map text)) xs := by
  have hcount := reads_arrayLength xs.length
  rw [Nat.mod_eq_of_lt hlen] at hcount
  rw [array_map]
  exact Reads.bind hcount ((@reads_elements String String (fun _ => textValue) "" text id xs
    fun x hx => reads_textValue_of (h x hx)).of_eq rfl (List.map_id xs))

/-- Nil reads as no bytes. -/
theorem reads_bytesValue_nil : Reads bytesValue nil [] := fun _ => rfl

/-- Nil reads as a list with no elements and no storage, whatever the list before. -/
theorem reads_backedValue_nil (old : Backed α) : Reads (backedValue elem zero old) nil Backed.empty :=
  fun _ => rfl

/-- Nil reads as an absent value. -/
theorem reads_optionValue_nil (old : Option α) : Reads (optionValue elem zero old) nil none := by
  intro rest
  rfl

/-- A value whose first byte is not nil reads as present, updated from the previous value or
the zero value. -/
theorem reads_optionValue_some {old : Option α} {c : UInt8} {tail : List UInt8} {a : α}
    (hc : c ≠ 0xc0) (h : Reads (elem (old.getD zero)) (c :: tail) a) :
    Reads (optionValue elem zero old) (c :: tail) (some a) := by
  intro rest
  have hread := h rest
  simp only [List.cons_append] at hread
  simp [optionValue, StateT.run_bind, peek, hc, hread]

end Lists

/-! ### Records -/

section Records

variable {α : Type} {fields : List (FieldReader α)}

/-- The entries of a map read the written fields in order. -/
theorem Walks.reads_keyedEntries (fuel : Nat) {ws : List Field} {r r' : α}
    (h : Walks fields ws r r') :
    Reads (keyedEntries fuel fields (present ws).length r)
      ((present ws).flatMap fun (k, v) => text k ++ v) r' := by
  induction h with
  | nil r => exact Reads.pure r
  | absent _ ih => exact ih
  | @written k v ws upd r r₁ r' hname hfind hupd _ ih =>
    rw [present_written, List.flatMap_cons, List.append_assoc, List.length_cons]
    refine Reads.bind (reads_textValue_of hname) ?_
    simp only [hfind]
    exact Reads.bind hupd ih

/-- A record whose written fields walk it from `r` to `r'` reads back as `r'`. -/
theorem reads_recordValue (fuel : Nat) (zero : α) {ws : List Field} {r r' : α}
    (h : Walks fields ws r r') (hlen : (present ws).length < 2 ^ 32) :
    Reads (recordValue fuel fields zero r) (record ws) r' := by
  have hform := reads_recordForm (present ws).length
  rw [Nat.mod_eq_of_lt hlen] at hform
  exact Reads.bind hform (h.reads_keyedEntries fuel)

end Records

/-! ### Where values sit in what is written -/

/-- A map header is never nil. -/
theorem mapHeader_eq_cons (n : Nat) : ∃ c tail, mapHeader n = c :: tail ∧ c ≠ 0xc0 := by
  unfold mapHeader
  split
  · rename_i h
    refine ⟨_, _, rfl, fun he => ?_⟩
    have := congrArg UInt8.toNat he
    simp at this
    omega
  split
  · exact ⟨_, _, rfl, by decide⟩
  · exact ⟨_, _, rfl, by decide⟩

/-- A record starts with a map header, never with nil. -/
theorem record_eq_cons (ws : List Field) : ∃ c tail, record ws = c :: tail ∧ c ≠ 0xc0 := by
  obtain ⟨c, tail, hh, hc⟩ := mapHeader_eq_cons (present ws).length
  exact ⟨c, _, by rw [record, hh, List.cons_append], hc⟩

/-- A written field's value is shorter than its record. -/
theorem length_lt_record {ws : List Field} {k : String} {v : List UInt8}
    (h : (k, some v) ∈ ws) : v.length < (record ws).length := by
  have hmem : (k, v) ∈ present ws := List.mem_filterMap.2 ⟨(k, some v), h, rfl⟩
  have hle := Library.length_le_flatMap (fun (k, v) => text k ++ v) hmem
  obtain ⟨c, tail, hh, _⟩ := mapHeader_eq_cons (present ws).length
  simp only [List.length_append] at hle
  simp only [record, hh, List.length_append, List.length_cons]
  omega

/-! ### The contract -/

/-- The linked library keeps the contract the codecs need of a library. -/
theorem v5_lawful : v5.Lawful where
  reads_uint8 := reads_unsigned_uint8
  reads_uint16 := reads_unsigned_uint16
  reads_int32 := reads_signed_int32
  reads_int64 := reads_signed_int64
  reads_int := reads_signed_int
  reads_bool := reads_boolean
  reads_text _ h := reads_textValue_of h
  reads_binary := reads_bytesValue
  reads_nil_bytes := reads_bytesValue_nil
  reads_arrayLength n h := (reads_arrayLength n).of_eq rfl (by rw [Nat.mod_eq_of_lt h])
  reads_texts := reads_textsValue
  reads_list _ _ enc val xs hlen h := reads_backedList enc val xs hlen h
  reads_nil_list _ _ := reads_backedValue_nil
  reads_absent _ _ := reads_optionValue_nil
  reads_present elem zero old ws a h := by
    -- a struct starts with a map header, never with nil
    obtain ⟨c, tail, hr, hc⟩ := record_eq_cons ws
    change Reads (elem (old.getD zero)) (record ws) a at h
    show Reads (optionValue elem zero old) (record ws) (some a)
    rw [hr] at h ⊢
    exact reads_optionValue_some hc h
  reads_record fuel _ zero _ _ _ h hlen := reads_recordValue fuel zero h hlen
  field_shorter _ _ _ h := length_lt_record h

end NativeExports.MessagePack

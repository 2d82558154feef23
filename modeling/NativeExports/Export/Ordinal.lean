import NativeExports.Export.Candidate
/-!
Ordinal tables: every candidate gets a distinct ordinal from 1 to 65535.  Candidates that
request an ordinal get it, and two of them may not request the same one.  The others, in
order, get the free ordinals in increasing order; when the free ordinals run out the table
cannot be built.  The table lists its entries by ordinal; looking a name up finds the entry
of that name with the highest ordinal.
-/

namespace NativeExports

/-- The largest ordinal. -/
def maxOrdinal : Nat := 65535

/-- An entry of the table: ordinal, export name and the candidate. -/
structure OrdinalEntry where
  ordinal : Nat
  name : String
  candidate : Candidate
  deriving Inhabited

/-- An ordinal table, entries in increasing order of ordinal. -/
structure OrdinalTable where
  entries : List OrdinalEntry
  deriving Inhabited

/-- Which candidate holds each ordinal requested so far, indexed by ordinal. -/
abbrev Claims := Array (Option Candidate)

/-- Gives each candidate that requests an ordinal that ordinal, in order; fails at the first
request of an ordinal already requested. -/
def claimRequested (claims : Claims) : List Candidate → Except Fault Claims
  | [] => .ok claims
  | c :: rest =>
    let o := c.ordinal.toNat
    if o = 0 then claimRequested claims rest
    else match claims[o]? with
      | some (some prev) => .error (.error Code.duplicateOrdinal ("ordinal " ++ toString o ++
          " is requested by both " ++ prev.entity ++ " and " ++ c.entity))
      | _ => claimRequested (claims.set! o (some c)) rest

/-- The first ordinal from `cursor` on that nobody requested, if any is left. -/
def freeFrom (claims : Claims) (cursor : Nat) : Option Nat :=
  if _h : cursor ≤ maxOrdinal then
    match claims[cursor]? with
    | some (some _) => freeFrom claims (cursor + 1)
    | _ => some cursor
  else none
termination_by maxOrdinal + 1 - cursor

/-- Gives the candidates without a request the free ordinals in increasing order; the
search goes on from the ordinal after the last one given. -/
def assignFree (claims : Claims) : Nat → List Candidate → Except Fault (List OrdinalEntry)
  | _, [] => .ok []
  | cursor, c :: rest =>
    match freeFrom claims cursor with
    | none => .error (.wrap Code.ordinalsSpent (.reason "out of range")
        ("no free ordinal left for " ++ c.entity))
    | some o => (assignFree claims (o + 1) rest).map fun tail => ⟨o, c.name, c⟩ :: tail

/-- Builds the ordinal table of the candidates. -/
def OrdinalTable.allocate (cands : List Candidate) : Except Fault OrdinalTable := do
  let claims ← claimRequested (Array.replicate (maxOrdinal + 1) none) cands
  let requested := (cands.filter (·.ordinal ≠ 0)).map fun c => (⟨c.ordinal.toNat, c.name, c⟩ : OrdinalEntry)
  let given ← assignFree claims 1 (cands.filter (·.ordinal = 0))
  pure ⟨(requested ++ given).mergeSort fun a b => a.ordinal ≤ b.ordinal⟩

namespace OrdinalTable

/-- The number of entries. -/
def size (t : OrdinalTable) : Nat := t.entries.length

/-- The name exported at an ordinal. -/
def nameAt? (t : OrdinalTable) (o : Nat) : Option String :=
  (t.entries.find? (·.ordinal == o)).map (·.name)

/-- The ordinal of an export name: that of the last entry, by ordinal, with the name. -/
def ordinalOf? (t : OrdinalTable) (name : String) : Option Nat :=
  (t.entries.reverse.find? (·.name == name)).map (·.ordinal)

/-- The highest ordinal in the table, 0 when it is empty. -/
def highest (t : OrdinalTable) : Nat := t.entries.foldl (fun m e => max m e.ordinal) 0

end OrdinalTable

end NativeExports

import NativeExports.Fault
/-!
Collected findings.  Findings are kept once each, identified by code identifier and message,
in the order they first arrive.  A collection may have a limit: once it holds that many
findings, a new one is refused and counted as dropped.  A finding already held is refused
without being counted.
-/

namespace NativeExports

/-- A finding reported during a run: code, severity and message. -/
structure Finding where
  code : Code
  severity : Severity
  message : String
  deriving Repr, DecidableEq, Inhabited

/-- What identifies a finding in a collection: its code identifier and its message. -/
def Finding.key (f : Finding) : String × String := (f.code.id, f.message)

/-- The finding as a fault with no cause. -/
def Finding.toFault (f : Finding) : Fault := .finding f.code f.severity f.message none

/-- A collection of findings with an optional limit (none when zero or negative). -/
structure Findings where
  limit : Int
  items : List Finding
  dropped : Nat
  deriving Repr

namespace Findings

/-- An empty collection with the given limit. -/
def empty (limit : Int) : Findings := ⟨limit, [], 0⟩

/-- Whether the collection holds as many findings as its limit allows. -/
def full (b : Findings) : Bool := 0 < b.limit && b.limit ≤ b.items.length

/-- Offers a finding (or nothing); answers whether it was taken.  A finding whose key is
held already is refused; when the collection is full it is refused and counted. -/
def add (b : Findings) : Option Finding → Findings × Bool
  | none => (b, false)
  | some f =>
    if b.items.any (fun g => g.key == f.key) then (b, false)
    else if b.full then ({ b with dropped := b.dropped + 1 }, false)
    else ({ b with items := b.items ++ [f] }, true)

/-- Whether some finding held counts as an error. -/
def hasErrors (b : Findings) : Bool := b.items.any fun f => f.severity.isError

/-- The order of sorted reports: by code number, then by message. -/
def reportOrder (f g : Finding) : Bool :=
  f.code.num < g.code.num || (f.code.num == g.code.num && decide (f.message ≤ g.message))

/-- The findings sorted by code, then message; equal ones keep their arrival order. -/
def sorted (b : Findings) : List Finding := b.items.mergeSort reportOrder

end Findings

end NativeExports

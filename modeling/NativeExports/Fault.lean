/-!
Diagnostics: codes, severities and faults.

A diagnostic code is a number whose thousands name its family (usage, references,
collisions, descriptors, the file system, the toolchain, findings).  The family gives the
code's identifier, such as `DSC4006`, and the exit status of a run that ends with it.

A fault is a chain of causes.  Its outermost layers may be findings of this tool (a code, a
severity and a message), context put in front of a cause ("reading x: ..."), or a bare
reason.  The text of a finding is its own message; the text of a context layer is the context
followed by the text of its cause.  The code of a fault is that of its first finding.  A crash
is a failure of the program itself rather than a finding: nothing handles it, and it ends the
run with its text.
-/

namespace NativeExports

/-- The families of diagnostic codes, one per thousand. -/
inductive CodeFamily where
  | usage
  | reference
  | collision
  | descriptor
  | fileSystem
  | toolchain
  | finding
  deriving Repr, DecidableEq

/-- The three letters that start the identifiers of a family's codes. -/
def CodeFamily.tag : CodeFamily → String
  | .usage => "USE"
  | .reference => "REF"
  | .collision => "DUP"
  | .descriptor => "DSC"
  | .fileSystem => "IOE"
  | .toolchain => "TLC"
  | .finding => "WRN"

/-- The exit status of a run that fails with a code of the family. -/
def CodeFamily.exitStatus : CodeFamily → Nat
  | .usage => 1
  | .reference => 2
  | .collision => 3
  | .descriptor => 4
  | .fileSystem => 5
  | .toolchain => 6
  | .finding => 1

/-- A diagnostic code. -/
structure Code where
  num : Nat
  deriving Repr, DecidableEq, Inhabited

namespace Code

def unknown : Code := ⟨0⟩
def usageInfo : Code := ⟨1000⟩
def missingInput : Code := ⟨1001⟩
def missingOutput : Code := ⟨1002⟩
def badOption : Code := ⟨1003⟩
def badConfig : Code := ⟨1004⟩
def referenceInfo : Code := ⟨2000⟩
def unresolvedReference : Code := ⟨2001⟩
def unreadableImage : Code := ⟨2002⟩
def collisionInfo : Code := ⟨3000⟩
def duplicateExportName : Code := ⟨3001⟩
def duplicateOrdinal : Code := ⟨3002⟩
def ordinalsSpent : Code := ⟨3003⟩
def descriptorInfo : Code := ⟨4000⟩
def unsupportedType : Code := ⟨4001⟩
def unsupportedMarshal : Code := ⟨4002⟩
def unsupportedVariant : Code := ⟨4003⟩
def leftoverParameter : Code := ⟨4004⟩
def missingParameter : Code := ⟨4005⟩
def badAttribute : Code := ⟨4006⟩
def badScope : Code := ⟨4007⟩
def fileSystemInfo : Code := ⟨5000⟩
def readFailed : Code := ⟨5001⟩
def writeFailed : Code := ⟨5002⟩
def toolchainInfo : Code := ⟨6000⟩
def assemblerNotFound : Code := ⟨6001⟩
def assemblerStartFailed : Code := ⟨6002⟩
def findingInfo : Code := ⟨7000⟩
def ineligibleMark : Code := ⟨7001⟩
def markInGenericType : Code := ⟨7002⟩

/-- The family of a code, by its thousands; codes outside 1000 to 7999 have none. -/
def family? (c : Code) : Option CodeFamily :=
  match c.num / 1000 with
  | 1 => some .usage
  | 2 => some .reference
  | 3 => some .collision
  | 4 => some .descriptor
  | 5 => some .fileSystem
  | 6 => some .toolchain
  | 7 => some .finding
  | _ => none

/-- Decimal digits of `n`, zero-padded on the left to at least four. -/
def fourDigits (n : Nat) : String :=
  let s := toString n
  String.ofList (List.replicate (4 - s.length) '0') ++ s

/-- The identifier of a code: the family's tag and four digits, or `E0000` without family. -/
def id (c : Code) : String :=
  match c.family? with
  | some f => f.tag ++ fourDigits c.num
  | none => "E0000"

/-- The title of a code; codes without one read "Unknown error". -/
def title (c : Code) : String :=
  match c.num with
  | 1000 => "Usage information"
  | 1001 => "No input modules given"
  | 1002 => "Output module not given"
  | 1003 => "Malformed option"
  | 1004 => "Invalid configuration"
  | 2000 => "Reference information"
  | 2001 => "Module reference cannot be resolved"
  | 2002 => "Module image cannot be read"
  | 3000 => "Collision information"
  | 3001 => "Duplicate export name"
  | 3002 => "Duplicate ordinal"
  | 3003 => "No free ordinal left"
  | 4000 => "Descriptor information"
  | 4001 => "Type shape cannot be rendered"
  | 4002 => "Marshalling kind cannot be rendered"
  | 4003 => "Variant sub-type cannot be rendered"
  | 4004 => "Marshal parameter not valid for its kind"
  | 4005 => "Marshal kind requires a parameter"
  | 4006 => "Malformed attribute record"
  | 4007 => "Type scope out of range"
  | 5000 => "File system information"
  | 5001 => "Read failed"
  | 5002 => "Write failed"
  | 6000 => "Toolchain information"
  | 6001 => "Assembler not found"
  | 6002 => "Assembler failed to start"
  | 7000 => "Finding"
  | 7001 => "Export marker on an ineligible method"
  | 7002 => "Export marker inside a generic type"
  | _ => "Unknown error"

/-- The code in brackets with its title. -/
def describe (c : Code) : String := "[" ++ c.id ++ "]: " ++ c.title

/-- The exit status of a run that fails with the code: by family, 1 without one. -/
def exitStatus (c : Code) : Nat :=
  match c.family? with
  | some f => f.exitStatus
  | none => 1

end Code

/-- How serious a finding is: 0 a note, 1 a warning, 2 and above an error. -/
structure Severity where
  level : Nat
  deriving Repr, DecidableEq, Inhabited

namespace Severity

def note : Severity := ⟨0⟩
def warning : Severity := ⟨1⟩
def error : Severity := ⟨2⟩

/-- Whether the severity counts as an error. -/
def isError (s : Severity) : Bool := 2 ≤ s.level

/-- The word for a severity in reports. -/
def name (s : Severity) : String :=
  match s.level with
  | 0 => "note"
  | 1 => "warning"
  | 2 => "error"
  | _ => "unknown"

end Severity

/-- A fault: a chain of causes, outermost first. -/
inductive Fault where
  /-- A finding of this tool with its code, severity, own message and optional cause. -/
  | finding (code : Code) (severity : Severity) (message : String) (cause : Option Fault)
  /-- Context put in front of a cause; it reads "context: cause". -/
  | context (label : String) (cause : Fault)
  /-- A bare reason with nothing behind it. -/
  | reason (text : String)
  /-- A crash of the program itself, such as a read through an empty entry: nothing handles
  it, and it ends the run with its text. -/
  | crash (text : String)
  deriving Repr, Inhabited

namespace Fault

/-- The crash of a read through an empty entry. -/
def nilDereference : Fault := .crash "runtime error: invalid memory address or nil pointer dereference"

/-- An error finding with no cause. -/
def error (code : Code) (message : String) : Fault := .finding code .error message none

/-- An error finding caused by another fault. -/
def wrap (code : Code) (cause : Fault) (message : String) : Fault :=
  .finding code .error message (some cause)

/-- A warning finding. -/
def warning (code : Code) (message : String) : Fault := .finding code .warning message none

/-- The text of a fault: a finding shows its own message only, context shows itself and
then its cause. -/
def text : Fault → String
  | .finding _ _ message _ => message
  | .context label cause => label ++ ": " ++ cause.text
  | .reason t => t
  | .crash t => t

/-- The code of the first finding in the chain, or the unknown code. -/
def code : Fault → Code
  | .finding c _ _ _ => c
  | .context _ cause => cause.code
  | .reason _ | .crash _ => Code.unknown

/-- The next layer of the chain. -/
def cause? : Fault → Option Fault
  | .finding _ _ _ cause => cause
  | .context _ cause => some cause
  | .reason _ | .crash _ => none

/-- The first finding layer of the chain, as code, message and cause. -/
def firstFinding? : Fault → Option (Code × String × Option Fault)
  | .finding c _ message cause => some (c, message, cause)
  | .context _ cause => cause.firstFinding?
  | .reason _ | .crash _ => none

/-- One layer as the cause chain shows it: a finding as "ID: message", context as itself. -/
def layerLine : Fault → String
  | .finding c _ message _ => c.id ++ ": " ++ message
  | .context label _ => label
  | .reason t | .crash t => t

/-- A later line of the chain: a new line, two spaces per level of depth, "caused by". -/
def causedLine (depth : Nat) (text : String) : String :=
  "\n" ++ String.join (List.replicate depth "  ") ++ "caused by: " ++ text

mutual
/-- The lines of a chain shown below its first line, starting at the given depth. -/
def detailFrom (depth : Nat) : Fault → String
  | .finding c _ message cause => causedLine depth (c.id ++ ": " ++ message) ++
      detailFromCause (depth + 1) cause
  | .context label next => causedLine depth label ++ detailFrom (depth + 1) next
  | .reason t | .crash t => causedLine depth t

/-- The lines of an optional cause, starting at the given depth. -/
def detailFromCause (depth : Nat) : Option Fault → String
  | none => ""
  | some f => detailFrom depth f
end

/-- The whole chain, one layer per line, each later one indented and marked "caused by". -/
def detail : Fault → String
  | f@(.finding _ _ _ cause) => f.layerLine ++ detailFromCause 1 cause
  | f@(.context _ next) => f.layerLine ++ detailFrom 1 next
  | f@(.reason _) | f@(.crash _) => f.layerLine

/-- The message a report shows: the text of the fault, except that when its first finding
has a cause the report shows that finding's message and the text of its cause. -/
def reportText (f : Fault) : String :=
  match f.firstFinding? with
  | some (_, message, some cause) => message ++ ": " ++ cause.text
  | _ => f.text

end Fault

end NativeExports

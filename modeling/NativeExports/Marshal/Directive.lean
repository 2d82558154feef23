import NativeExports.Attribute
import NativeExports.Marshal.Kind
/-!
Marshalling directives: the native type the assembler writes after `marshal` for a
parameter or return value.

The first positional argument of a marshalling attribute gives the kind; its named
arguments are the kind's parameters, a later one of a name replacing an earlier one.  Each
kind reads the parameters it knows, and a parameter it does not read makes the directive
fail, naming all such parameters in order.  Simple kinds read none; interface kinds read
`IidParameterIndex`; arrays passed by pointer read `ArraySubType`, `SizeConst` and
`SizeParamIndex`; safe arrays read `SafeArraySubType`; fixed arrays and fixed strings read
`SizeConst`, which they require; custom marshalers read `MarshalType`, `MarshalTypeRef` and
`MarshalCookie`.  An array element kind is rendered as a directive of its own without
parameters.
-/

namespace NativeExports.Marshal

/-- The parameters of a directive that are not read yet, by name. -/
abbrev Params := List (String × AttrValue)

/-- Records a parameter; a later value of a name replaces the earlier one. -/
def Params.set (ps : Params) (name : String) (v : AttrValue) : Params :=
  if ps.any (·.1 == name) then ps.map fun p => if p.1 == name then (name, v) else p
  else ps ++ [(name, v)]

/-- Reads a parameter, removing it from those left. -/
def Params.take (ps : Params) (name : String) : Option AttrValue × Params :=
  (ps.lookup name, ps.filter (·.1 != name))

/-- A directive: its kind and its parameters. -/
structure Directive where
  kind : Int
  params : Params
  deriving Repr

/-- The directive an attribute asks for: a kind argument that is an integer is required. -/
def Directive.ofAttribute (attr : Option Attribute) : Except Fault Directive :=
  match attr with
  | none => .error (.error Code.badAttribute "marshal attribute without a kind argument")
  | some a => match a.args with
    | [] => .error (.error Code.badAttribute "marshal attribute without a kind argument")
    | first :: _ => match first.asInt with
      | .error e => .error (.wrap Code.badAttribute e "marshal attribute kind")
      | .ok k => .ok ⟨k.toInt, a.named.foldl (fun ps n => ps.set n.name n.value) []⟩

/-- Reads an integer parameter that must not be negative. -/
def takeCount (ps : Params) (name : String) : Except Fault (Option Int × Params) :=
  match ps.take name with
  | (none, rest) => .ok (none, rest)
  | (some v, rest) => match v.asInt with
    | .error e => .error (.wrap Code.badAttribute e ("marshal parameter " ++ name))
    | .ok i =>
      if i.toInt < 0 then
        .error (.error Code.badAttribute ("marshal parameter " ++ name ++ " must not be negative, got " ++
          toString i.toInt))
      else .ok (some i.toInt, rest)

/-- Reads a text parameter. -/
def takeText (ps : Params) (name : String) : Except Fault (Option String × Params) :=
  match ps.take name with
  | (none, rest) => .ok (none, rest)
  | (some v, rest) => match v.asString with
    | .error e => .error (.wrap Code.badAttribute e ("marshal parameter " ++ name))
    | .ok s => .ok (some s, rest)

/-- Text in double quotes for the assembler: backslash, quote, newline and tab escaped. -/
def escapeDouble (s : String) : String :=
  String.join (s.toList.map fun c =>
    if c = '\\' then "\\\\" else if c = '"' then "\\\"" else if c = '\n' then "\\n"
    else if c = '\t' then "\\t" else c.toString)

/-- The text of a safe array's element variant type. -/
def variantText (v : Int) : Except Fault String :=
  if hasUnknownFlags v then
    .error (.error Code.unsupportedVariant ("variant sub-type 0x" ++ signedHex v ++ " carries unknown flags"))
  else match variantNames.lookup (variantBase v) with
    | none => .error (.error Code.unsupportedVariant
        ("variant sub-type " ++ toString (variantBase v) ++ " cannot be rendered"))
    | some name =>
      if variantModifiers v ≠ 0 && name = "" then
        .error (.error Code.unsupportedVariant
          ("variant modifiers 0x" ++ signedHex (variantModifiers v) ++ " without a base type"))
      else
        .ok (name ++ (if hasFlag v 0x1000 then " vector" else "") ++
          (if hasFlag v 0x2000 then "[]" else "") ++ (if hasFlag v 0x4000 then "&" else ""))

/-- The fault of parameters a kind does not read: their names in order. -/
def leftoverFault (kind : Int) (ps : Params) : Option Fault :=
  match ps with
  | [] => none
  | _ =>
    let names := (ps.map (·.1)).mergeSort fun a b => decide (a ≤ b)
    some (.error Code.leftoverParameter
      ("marshal kind " ++ kindName kind ++ " does not accept " ++ String.intercalate ", " names))

/-- The native type of an element kind, rendered as a directive without parameters. -/
def elementText (kind : Int) : Except Fault String :=
  if kind = byValTStr then
    .error (.error Code.missingParameter ("marshal kind " ++ kindName kind ++ " requires SizeConst"))
  else if kind = byValArray then
    .error (.error Code.missingParameter ("marshal kind " ++ kindName kind ++ " requires SizeConst"))
  else if kind = customMarshaler then
    .error (.error Code.missingParameter
      ("marshal kind " ++ kindName kind ++ " requires MarshalType or MarshalTypeRef"))
  else match simpleNative.lookup kind, interfaceNative.lookup kind with
    | some kw, _ => .ok kw
    | none, some kw => .ok kw
    | none, none =>
      if kind = lpArray then .ok "[]"
      else if kind = safeArray then .ok "safearray"
      else .error (.error Code.unsupportedMarshal ("marshal kind " ++ kindName kind ++ " cannot be rendered"))

/-- Reads the element kind of an array, rendered on its own; a failure is wrapped with the
array's kind and keeps its code. -/
def takeElement (kind : Int) (ps : Params) : Except Fault (String × Params) :=
  match ps.take "ArraySubType" with
  | (none, rest) => .ok ("", rest)
  | (some v, rest) => match v.asInt with
    | .error e => .error (.wrap Code.badAttribute e "marshal parameter ArraySubType")
    | .ok raw => match elementText raw.toInt with
      | .ok t => .ok (t, rest)
      | .error e => .error (.wrap e.code e ("array element of marshal kind " ++ kindName kind))

/-- The native type of a directive, with the parameters it did not read. -/
def nativeText (d : Directive) : Except Fault (String × Params) :=
  let ps := d.params
  match simpleNative.lookup d.kind, interfaceNative.lookup d.kind with
  | some kw, _ => .ok (kw, ps)
  | none, some kw => do
    let (idx, rest) ← takeCount ps "IidParameterIndex"
    match idx with
    | some i => pure (kw ++ "(iidparam = " ++ toString i ++ ")", rest)
    | none => pure (kw, rest)
  | none, none =>
    if d.kind = lpArray then do
      let (elem, ps1) ← takeElement d.kind ps
      let (size, ps2) ← takeCount ps1 "SizeConst"
      let (index, ps3) ← takeCount ps2 "SizeParamIndex"
      let bounds := match size, index with
        | some s, some i => toString s ++ "+" ++ toString i
        | some s, none => toString s
        | none, some i => "+" ++ toString i
        | none, none => ""
      pure (elem ++ "[" ++ bounds ++ "]", ps3)
    else if d.kind = safeArray then
      match ps.take "SafeArraySubType" with
      | (none, rest) => .ok ("safearray", rest)
      | (some v, rest) => match v.asInt with
        | .error e => .error (.wrap Code.badAttribute e "marshal parameter SafeArraySubType")
        | .ok raw => do
          let variant ← variantText raw.toInt
          pure ("safearray" ++ (if variant = "" then "" else " " ++ variant), rest)
    else if d.kind = byValArray then do
      let (size, ps1) ← takeCount ps "SizeConst"
      match size with
      | none => throw (.error Code.missingParameter ("marshal kind " ++ kindName d.kind ++ " requires SizeConst"))
      | some n =>
        let (elem, ps2) ← takeElement d.kind ps1
        pure ("fixed array [" ++ toString n ++ "]" ++ (if elem = "" then "" else " " ++ elem), ps2)
    else if d.kind = byValTStr then do
      let (size, ps1) ← takeCount ps "SizeConst"
      match size with
      | none => throw (.error Code.missingParameter ("marshal kind " ++ kindName d.kind ++ " requires SizeConst"))
      | some n => pure ("fixed sysstring [" ++ toString n ++ "]", ps1)
    else if d.kind = customMarshaler then do
      let (typeName, ps1) ← takeText ps "MarshalType"
      let (typeRef, ps2) ← takeText ps1 "MarshalTypeRef"
      let chosen := match typeName with
        | some n => if n = "" then typeRef else some n
        | none => typeRef
      match chosen with
      | some n =>
        if n = "" then
          throw (.error Code.missingParameter
            ("marshal kind " ++ kindName d.kind ++ " requires MarshalType or MarshalTypeRef"))
        else
          let (cookie, ps3) ← takeText ps2 "MarshalCookie"
          pure ("custom (\"" ++ escapeDouble n ++ "\", \"" ++ escapeDouble (cookie.getD "") ++ "\")", ps3)
      | none => throw (.error Code.missingParameter
          ("marshal kind " ++ kindName d.kind ++ " requires MarshalType or MarshalTypeRef"))
    else .error (.error Code.unsupportedMarshal ("marshal kind " ++ kindName d.kind ++ " cannot be rendered"))

/-- The native type of a directive; parameters the kind does not read make it fail. -/
def Directive.render (d : Directive) : Except Fault String := do
  let (text, rest) ← nativeText d
  match leftoverFault d.kind rest with
  | some f => throw f
  | none => pure text

/-- The native type a marshalling attribute asks for. -/
def directiveText (attr : Option Attribute) : Except Fault String := do
  let d ← Directive.ofAttribute attr
  d.render

end NativeExports.Marshal

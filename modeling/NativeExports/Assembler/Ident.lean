import NativeExports.Text.Split
/-!
Identifiers in assembler text.  A plain identifier starts with a letter or one of `_ $ @ ?`
and a backquote, goes on with those or digits, and is not a keyword of the assembler; it is
written as it is.  Any other name is written in single quotes, with backslash, quote, newline
and tab escaped.  A dotted name is written part by part.
-/

namespace NativeExports.Assembler

/-- The assembler's keywords, which are never written bare. -/
def keywords : List String :=
  ["void", "bool", "char", "string", "object", "typedref", "int8", "int16", "int32", "int64",
    "uint8", "uint16", "uint32", "uint64", "float32", "float64", "native", "int", "unsigned",
    "class", "valuetype", "method", "field", "value", "static", "public", "private", "assembly",
    "marshal", "in", "out", "opt", "call", "ret", "instance", "explicit", "vararg", "cil",
    "managed", "error", "struct", "interface", "array", "fixed", "custom", "variant", "any", "as",
    "nested", "sealed", "ldarg", "nop", "pop", "dup", "extern", "module"]

/-- Characters that may start an identifier. -/
def isIdentStart (c : Char) : Bool :=
  c = '_' || c = '$' || c = '@' || c = '?' || c = '`' || ('a' ≤ c && c ≤ 'z') || ('A' ≤ c && c ≤ 'Z')

/-- Characters that may continue an identifier. -/
def isIdentPart (c : Char) : Bool := isIdentStart c || ('0' ≤ c && c ≤ '9')

/-- Whether a name can be written without quotes. -/
def isPlainIdent (s : String) : Bool :=
  match s.toList with
  | [] => false
  | c :: rest => !keywords.contains s && isIdentStart c && rest.all isIdentPart

/-- Escapes a name for single quotes. -/
def escapeSingle (s : String) : String :=
  String.join (s.toList.map fun c =>
    if c = '\\' then "\\\\" else if c = Char.ofNat 0x27 then "\\'" else if c = '\n' then "\\n"
    else if c = '\t' then "\\t" else c.toString)

/-- A name as written: bare when plain, else in single quotes. -/
def quoteIdent (s : String) : String := if isPlainIdent s then s else "'" ++ escapeSingle s ++ "'"

/-- A dotted name as written, part by part; the empty name stays empty. -/
def quoteDotted (s : String) : String :=
  if s = "" then "" else String.intercalate "." ((Text.splitOnChar '.' s).map quoteIdent)

/-- Text in single quotes with the same escapes. -/
def quoteSingle (s : String) : String := "'" ++ escapeSingle s ++ "'"

end NativeExports.Assembler

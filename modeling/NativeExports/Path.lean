import NativeExports.Text.Split
/-!
Slash-separated file paths.  A path is absolute when it starts with a slash and relative to
the working directory otherwise.  Cleaning gives the shortest equivalent spelling: repeated
slashes become one, "." parts go, a ".." part removes the part before it (at the root it is
dropped), and an empty result is ".".  The last part of a path is its base; the base's
extension is its text from the last dot.
-/

namespace NativeExports.Path

/-- The parts of a path between slashes (empty parts included). -/
def parts (p : String) : List String := Text.splitOnChar '/' p

/-- Whether a path is absolute. -/
def isAbs (p : String) : Bool := p.toList.head? == some '/'

/-- Folds the parts of a path onto the cleaned parts so far (kept reversed). -/
def cleanParts (rooted : Bool) : List String → List String → List String
  | acc, [] => acc
  | acc, "" :: rest => cleanParts rooted acc rest
  | acc, "." :: rest => cleanParts rooted acc rest
  | acc, ".." :: rest =>
    match acc with
    | ".." :: _ => cleanParts rooted (".." :: acc) rest
    | _ :: up => cleanParts rooted up rest
    | [] => if rooted then cleanParts rooted [] rest else cleanParts rooted [".."] rest
  | acc, p :: rest => cleanParts rooted (p :: acc) rest

/-- The shortest spelling of a path. -/
def clean (p : String) : String :=
  let rooted := isAbs p
  let kept := (cleanParts rooted [] (parts p)).reverse
  let body := String.intercalate "/" kept
  if rooted then "/" ++ body
  else if body = "" then "." else body

/-- Joins path parts with slashes, leaving out empty ones, and cleans the result; no
non-empty part gives the empty path. -/
def join (ps : List String) : String :=
  match ps.filter (· ≠ "") with
  | [] => ""
  | kept => clean (String.intercalate "/" kept)

/-- The text of a path without the slashes at its end (a path of slashes only keeps one). -/
def dropTrailingSlashes (p : String) : String :=
  let kept := (p.toList.reverse.dropWhile (· = '/')).reverse
  if kept.isEmpty && !p.isEmpty then "/" else String.ofList kept

/-- The last part of a path: "." for the empty path, "/" for the root. -/
def base (p : String) : String :=
  if p = "" then "."
  else
    let q := dropTrailingSlashes p
    if q = "/" then "/"
    else String.ofList (q.toList.reverse.takeWhile (· ≠ '/')).reverse

/-- The extension of a path: the text of its last part from the last dot, or empty. -/
def ext (p : String) : String :=
  let lastPart := (p.toList.reverse.takeWhile (· ≠ '/')).reverse
  match (lastPart.reverse.takeWhile (· ≠ '.')).length with
  | n => if n < lastPart.length then String.ofList (lastPart.drop (lastPart.length - n - 1))
    else ""

/-- A path without its extension. -/
def dropExt (p : String) : String :=
  String.ofList (p.toList.take (p.length - (ext p).length))

/-- The directory of a path: everything before its last slash, cleaned ("." when there is
no slash). -/
def dir (p : String) : String :=
  let before := (p.toList.reverse.dropWhile (· ≠ '/')).reverse
  clean (String.ofList before)

/-- The name of an assembly built to `output`: the output's base without its extension. -/
def stem (output : String) : String := dropExt (base output)

end NativeExports.Path

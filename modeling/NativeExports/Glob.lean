import NativeExports.Glob.Compile
/-!
Glob patterns over slash-separated paths.  A pattern is read into its tree (`Glob.Syntax`)
and compiled into a matcher (`Glob.Compile`); a path matches when the matcher matches the
bytes of the path (`Glob.Matcher`).
-/

namespace NativeExports.Glob

/-- A compiled pattern: its matcher, and a bound on the matcher's nesting. -/
structure Pattern where
  matcher : Matcher
  depth : Nat
  deriving Repr, Inhabited

/-- Reads and compiles a pattern.  The nesting of the compiled matcher stays below four times
the pattern's length, plus eight. -/
def compile (pattern : String) : Except String Pattern := do
  let tree ← parse pattern
  let depth := 4 * (pattern.length + 2)
  pure ⟨compileNode depth tree, depth⟩

/-- Whether a path matches a pattern. -/
def Pattern.matches (p : Pattern) (path : String) : Bool :=
  p.matcher.matches p.depth (Text.toBytes path)

/-- Whether text holds a character that makes it a pattern rather than a plain path. -/
def hasMeta (s : String) : Bool := s.any fun c => c == '*' || c == '?' || c == '[' || c == '{'

end NativeExports.Glob

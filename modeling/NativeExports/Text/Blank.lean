/-!
Blank characters: the characters trimmed from the ends of a field.  They are the ASCII
tab, newline, vertical tab, form feed, carriage return and space, the next-line control
U+0085, and the Unicode space separators (no-break space, ogham space mark, the spaces
U+2000 to U+200A, the line and paragraph separators, narrow no-break space, medium
mathematical space and ideographic space).
-/

namespace NativeExports.Text

/-- Whether a character is blank. -/
def isBlank (c : Char) : Bool :=
  let n := c.toNat
  (0x09 ≤ n && n ≤ 0x0D) || n == 0x20 || n == 0x85 || n == 0xA0 || n == 0x1680 ||
    (0x2000 ≤ n && n ≤ 0x200A) || n == 0x2028 || n == 0x2029 || n == 0x202F ||
    n == 0x205F || n == 0x3000

/-- A text without blank characters at either end. -/
def trimBlank (s : String) : String :=
  String.ofList (((s.toList.dropWhile isBlank).reverse.dropWhile isBlank).reverse)

end NativeExports.Text

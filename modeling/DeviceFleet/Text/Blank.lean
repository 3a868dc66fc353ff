/-!
# Blank characters

The characters of the Unicode `White_Space` property. Method names, control lines and
configuration pieces are trimmed by this set, so a no-break space or an ideographic space
around a word is dropped just like an ASCII space.
-/

namespace DeviceFleet.Text

/-- The Unicode `White_Space` property: the ASCII blanks, next line, no-break space, the
Ogham space mark, the spaces from en quad to hair space, the line and paragraph separators,
the narrow no-break space, the medium mathematical space and the ideographic space. -/
def isBlank (c : Char) : Bool :=
  let n := c.toNat
  (0x09 ≤ n && n ≤ 0x0D) || n == 0x20 || n == 0x85 || n == 0xA0 || n == 0x1680 ||
    (0x2000 ≤ n && n ≤ 0x200A) || n == 0x2028 || n == 0x2029 || n == 0x202F ||
    n == 0x205F || n == 0x3000

theorem isBlank_of_isWhitespace (c : Char) (h : c.isWhitespace = true) : isBlank c = true := by
  simp only [Char.isWhitespace, Bool.or_eq_true, decide_eq_true_eq] at h
  simp only [isBlank, Bool.or_eq_true, Bool.and_eq_true, decide_eq_true_eq, beq_iff_eq]
  rcases h with ((h | h) | h) | h <;> simp [h, Char.toNat]

def trimBlankChars (cs : List Char) : List Char :=
  ((cs.dropWhile isBlank).reverse.dropWhile isBlank).reverse

def trimBlank (s : String) : String :=
  String.ofList (trimBlankChars s.toList)

def trimBlankStart (s : String) : String :=
  String.ofList (s.toList.dropWhile isBlank)

def trimBlankEnd (s : String) : String :=
  String.ofList (s.toList.reverse.dropWhile isBlank).reverse

end DeviceFleet.Text

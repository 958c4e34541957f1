import KernelArchive.Text.CodeRange

/-!
# White space

* `Text.isBlank`: the characters with the Unicode property `White_Space`.
* `Text.trim`: a text without white space at either end.
-/

namespace KernelArchive.Text
set_option autoImplicit false

/-- The code points with the property `White_Space`. -/
def blankRanges : List CodeRange :=
  [⟨0x9, 0xD⟩, ⟨0x20, 0x20⟩, ⟨0x85, 0x85⟩, ⟨0xA0, 0xA0⟩, ⟨0x1680, 0x1680⟩, ⟨0x2000, 0x200A⟩,
   ⟨0x2028, 0x2029⟩, ⟨0x202F, 0x202F⟩, ⟨0x205F, 0x205F⟩, ⟨0x3000, 0x3000⟩]

/-- Is the character white space? -/
def isBlank (c : Char) : Bool := inRanges blankRanges c

/-- The text without white space at its end. -/
def trimEnd (cs : List Char) : List Char := (cs.reverse.dropWhile isBlank).reverse

/-- The text without white space at either end. -/
def trim (cs : List Char) : List Char := trimEnd (cs.dropWhile isBlank)

end KernelArchive.Text

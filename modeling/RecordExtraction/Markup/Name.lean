import RecordExtraction.Text.Blank

/-!
# Characters and names of a document

Which characters may stand in a document, and which of them may begin or continue a name.
-/

namespace RecordExtraction
namespace Markup

/-- The character may stand in a document: no control character except tab, line feed and carriage
return, and neither of the two noncharacters of the first plane. -/
def isDocumentChar (c : Char) : Bool :=
  if c.toNat < 0x20 then isSpace c else c.toNat != 0xfffe && c.toNat != 0xffff

/-- The intervals of code points beyond ASCII that may begin a name. -/
def nameStartIntervals : List (Nat × Nat) :=
  [(0xc0, 0xd6), (0xd8, 0xf6), (0xf8, 0x2ff), (0x370, 0x37d), (0x37f, 0x1fff), (0x200c, 0x200d),
   (0x2070, 0x218f), (0x2c00, 0x2fef), (0x3001, 0xd7ff), (0xf900, 0xfdcf), (0xfdf0, 0xfffd),
   (0x10000, 0xeffff)]

/-- The character may begin a name. -/
def isNameStart (c : Char) : Bool :=
  if c.toNat < 128 then c.isAlpha || c == '_' || c == ':'
  else nameStartIntervals.any fun interval => interval.1 ≤ c.toNat && c.toNat ≤ interval.2

/-- The character may stand in a name after the first one. -/
def isNameChar (c : Char) : Bool :=
  isNameStart c || c.isDigit || c == '-' || c == '.' || c.toNat == 0xb7 ||
    (0x300 ≤ c.toNat && c.toNat ≤ 0x36f) || c.toNat == 0x203f || c.toNat == 0x2040

/-- A name without a colon: a part of a qualified name. -/
def isPlainName : List Char → Bool
  | [] => false
  | c :: rest =>
      isNameStart c && c != ':' && rest.all fun d => isNameChar d && d != ':'

/-- A name as it is written, with the part before the colon; an empty qualifier is none. -/
structure QualifiedName where
  qualifier : String
  localName : String
deriving DecidableEq

end Markup
end RecordExtraction

import RestRoutes.Text.Break

/-!
Letters, numbers and marks by version 17 of the standard. The names of groups and the case and
division of texts follow this version; what a pattern matches follows the one before it. Membership
is decided list by list, so that it takes little for the characters that are common.
-/
namespace RestRoutes.Recent

def newAlphabetic : CodeSet := ⟨
  [(0x88F, 0x88F), (0xC5C, 0xC5C), (0xCDC, 0xCDC), (0xA7CE, 0xA7CF), (0xA7D2, 0xA7D2),
   (0xA7D4, 0xA7D4), (0xA7F1, 0xA7F1), (0x10940, 0x10959), (0x10EC5, 0x10EC7),
   (0x10EFA, 0x10EFB), (0x11B60, 0x11B67), (0x11DB0, 0x11DDB), (0x16EA0, 0x16EB8),
   (0x16EBB, 0x16ED3), (0x16FF2, 0x16FF6), (0x187F8, 0x187FF), (0x18D09, 0x18D1E),
   (0x18D80, 0x18DF2), (0x1E6C0, 0x1E6DE), (0x1E6E0, 0x1E6F5), (0x1E6FE, 0x1E6FF),
   (0x2B73A, 0x2B73F), (0x2CEA2, 0x2CEAD), (0x323B0, 0x33479)]⟩

def isAlphabetic (c : Nat) : Bool :=
  [Category.lowercaseLetter, Category.uppercaseLetter, Category.titlecaseLetter,
    Category.modifierLetter, Category.otherLetter, Category.letterNumber, Property.otherAlphabetic,
    newAlphabetic].any (·.contains c)

def newNumber : CodeSet := ⟨
  [(0x11DE0, 0x11DE9), (0x16FF4, 0x16FF6)]⟩

def isNumber (c : Nat) : Bool :=
  [Category.decimalNumber, Category.letterNumber, Category.otherNumber, newNumber].any
    (·.contains c)

def newCased : CodeSet := ⟨
  [(0xA7CE, 0xA7CF), (0xA7D2, 0xA7D2), (0xA7D4, 0xA7D4), (0xA7F1, 0xA7F1), (0x16EA0, 0x16EB8),
   (0x16EBB, 0x16ED3)]⟩

/-- One letter has lost its case. -/
def isCased (c : Nat) : Bool :=
  c != 0x295 && [Category.lowercaseLetter, Category.uppercaseLetter, Category.titlecaseLetter,
    Property.otherLowercase, Property.otherUppercase, newCased].any (·.contains c)

def newCaseIgnorable : CodeSet := ⟨
  [(0x1ACF, 0x1ADD), (0x1AE0, 0x1AEB), (0xA7F1, 0xA7F1), (0x10EC5, 0x10EC5), (0x10EFA, 0x10EFB),
   (0x11B60, 0x11B60), (0x11B62, 0x11B64), (0x11B66, 0x11B66), (0x11DD9, 0x11DD9),
   (0x16FF2, 0x16FF3), (0x1E6E3, 0x1E6E3), (0x1E6E6, 0x1E6E6), (0x1E6EE, 0x1E6EF),
   (0x1E6F5, 0x1E6F5), (0x1E6FF, 0x1E6FF)]⟩

def isCaseIgnorable (c : Nat) : Bool :=
  [Category.nonspacingMark, Category.enclosingMark, Category.format, Category.modifierLetter,
    Category.modifierSymbol, Property.otherCaseIgnorable, newCaseIgnorable].any (·.contains c)

def newMark : CodeSet := ⟨
  [(0x1ACF, 0x1ADD), (0x1AE0, 0x1AEB), (0x10EFA, 0x10EFB), (0x11B60, 0x11B67),
   (0x1E6E3, 0x1E6E3), (0x1E6E6, 0x1E6E6), (0x1E6EE, 0x1E6EF), (0x1E6F5, 0x1E6F5)]⟩

/-- What joins the cluster before it. -/
def attaches (c : Nat) : Bool :=
  [Category.nonspacingMark, Category.enclosingMark, Property.otherGraphemeExtend,
    Property.emojiModifier, Break.attachedVowel, Break.joiner, newMark].any (·.contains c)
  || (Category.spacingMark.contains c && !Break.standalone.contains c)

/-- What joins the cluster after it. One letter does so no longer. -/
def leads (c : Nat) : Bool := c != 0x11A3A && Break.prepend.contains c

end RestRoutes.Recent

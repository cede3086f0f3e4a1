import PodMesh.Text.Category.Table
import PodMesh.Text.Property.Listed

/-!
# Properties

Properties of characters that follow from general categories and from listed properties.
-/

namespace PodMesh.Text.Property

open Category (charsOf)

def alphabetic : CharSet := .union (charsOf [.lu, .ll, .lt, .lm, .lo, .nl]) otherAlphabetic

def lowercase : CharSet := .union (charsOf [.ll]) otherLowercase

def uppercase : CharSet := .union (charsOf [.lu]) otherUppercase

/-- Letters with a case. -/
def cased : CharSet := .unions [lowercase, uppercase, charsOf [.lt]]

/-- Left out when it is seen whether a letter ends a word. -/
def caseIgnorable : CharSet :=
  .union (charsOf [.mn, .me, .cf, .lm, .sk]) <|
    .ofTable "27 2E 3A B7 387 55F 5F4 2018-2019 2024 2027 FE13 FE52 FE55 FF07 FF0E FF1A"

/-- Become others in another case. -/
def changesWhenMapped : CharSet :=
  .unions [changesWhenLowercased, changesWhenUppercased, changesWhenTitlecased]

def math : CharSet := .union (charsOf [.sm]) otherMath

/-- Joined to the character before. -/
def graphemeExtend : CharSet := .union (charsOf [.me, .mn]) otherGraphemeExtend

/-- Seen in their own place. -/
def graphemeBase : CharSet :=
  CharSet.complement (.union (charsOf [.cc, .cf, .cs, .co, .cn, .zl, .zp]) graphemeExtend)

/-- Blank characters. -/
def whiteSpace : CharSet := .ofTable "9-D 20 85 A0 1680 2000-200A 2028-2029 202F 205F 3000"

/-- What no identifier holds. -/
def patternSigns : CharSet := .union patternSyntax patternWhiteSpace

def idStart : CharSet :=
  .diff (.union (charsOf [.lu, .ll, .lt, .lm, .lo, .nl]) otherIdStart) patternSigns

def idContinue : CharSet :=
  .diff (.unions [idStart, charsOf [.mn, .mc, .nd, .pc], otherIdContinue]) patternSigns

/-- Parts of identifiers that stop being parts when they are taken apart. -/
def unstable : CharSet :=
  .ofTable "37A 309B-309C FC5E-FC63 FDFA-FDFB FE70-FE7E/2"

/-- Starts of identifiers that stop being starts when they are taken apart. -/
def unstableStart : CharSet := .union unstable (.ofTable "E33 EB3 FF9E-FF9F")

def xidStart : CharSet := .diff idStart unstableStart

def xidContinue : CharSet := .diff idContinue unstable

/-- Shown as nothing where they are not supported. -/
def defaultIgnorable : CharSet :=
  .diff (.unions [otherDefaultIgnorable, charsOf [.cf], variationSelector])
    (.unions [whiteSpace, prependedConcatenationMark, .ofTable "FFF9-FFFB 13430-1343F"])

end PodMesh.Text.Property

import PromptGraph.Http.LabelTable
import PromptGraph.Http.Percent
import PromptGraph.Json.Reader
import PromptGraph.Text.Capital
import PromptGraph.Text.Punycode
import PromptGraph.Text.Replace

/-!
# `PromptGraph.Http.Host` — the hosts of addresses

A host is a name, or an address of four numbers or in brackets of eight hexadecimal groups. A name is taken in lower
case; where it leaves ASCII it must be an international name, whose labels are written in ASCII.

## Contents
- **Numbers.** `isDotted`, which tells a host of four numbers, and `isFourNumbers`, which tells a sound one.
- **Groups.** `isGroupAddress`: what stands in brackets.
- **Lower case.** `lowerName`: a name in lower case.
- **Labels.** `isLabel`: the rules of a label; `asciiLabel?`, `asciiName?`.
- `hostText?`: the form in which requests name a host.
-/

namespace PromptGraph.Http

/-! ## Numbers -/

/-- The places that reading a host of four groups of digits, with one character between them, may have come to: twice
    the number of full groups before, and one more within a group. -/
def nextPlaces (c : Char) (place : Nat) : List Nat :=
  if place % 2 = 0 then (if Json.isAsciiDigit c then [place + 1] else [])
  else (if Json.isAsciiDigit c then [place] else []) ++ (if place < 7 then [place + 1] else [])

/-- Whether a host is four groups of digits with any one character between them. Such a host is taken for an address
    of four numbers. -/
def isDotted (host : List Char) : Bool :=
  (host.foldl (fun places c => (places.flatMap (nextPlaces c)).eraseDups) [0]).contains 7

/-- A number of at most 255 without leading zeros. -/
def isByteNumeral (cs : List Char) : Bool :=
  !cs.isEmpty && cs.length ≤ 3 && cs.all Json.isAsciiDigit && (cs.length == 1 || cs.head? != some '0')
    && Json.asciiNat cs ≤ 255

/-- Whether a text is four numbers of at most 255 with points between them. -/
def isFourNumbers (cs : List Char) : Bool :=
  let parts := splitOnChar '.' cs
  parts.length == 4 && parts.all isByteNumeral

/-! ## Groups -/

/-- One to four hexadecimal digits. -/
def isGroup (cs : List Char) : Bool :=
  !cs.isEmpty && cs.length ≤ 4 && cs.all fun c => (Text.hexValue? c).isSome

/-- Four numbers in the place of the last group stand for two groups. -/
def groupsOf (cs : List Char) : List (List Char) :=
  let parts := splitOnChar ':' cs
  match parts.getLast? with
  | some final => if isFourNumbers final then parts.dropLast ++ [['0'], ['0']] else parts
  | none => parts

/-- The groups at one side of a gap; an empty list stands for none. -/
def isSide (groups : List (List Char)) : Bool := groups == [[]] || groups.all isGroup

/-- The number of groups at one side of a gap. -/
def sideLength (groups : List (List Char)) : Nat := if groups == [[]] then 0 else groups.length

/-- Whether a text is an address of eight groups, where one gap may stand for one or more groups of zeros. After a
    percent sign a zone may follow, which is not empty and has no percent sign. -/
def isGroupAddress (cs : List Char) : Bool :=
  let (address, zone) := cutAt '%' cs
  let isZone := match zone with
    | none => true
    | some z => !z.isEmpty && !z.contains '%'
  let groups := groupsOf address
  let inner := (groups.drop 1).dropLast
  let isSound := match inner.findIdx? List.isEmpty with
    | none => groups.length == 8 && groups.all isGroup
    | some i =>
      let before := groups.take (i + 1)
      let after := groups.drop (i + 2)
      isSide before && isSide after && sideLength before + sideLength after ≤ 7
  isZone && 3 ≤ (splitOnChar ':' address).length && isSound

/-! ## Lower case -/

/-- Whether a character is a mark that takes no room of its own. -/
def isAccent (c : Char) : Bool := isMember markTurns c && !isMember spacingTurns c

/-- Whether the first of some characters that is neither an accent nor passed over as one has a capital or is one. -/
def leadsToLetter (cs : List Char) : Bool :=
  ((cs.dropWhile fun c => isAccent c || isMember silentTurns c).head?).any (isMember casedTurns)

/-- A name in lower case, `before` being the reversed part before it. The capital sigma becomes the final one at the
    end of a word of letters. -/
def lowerName (before : List Char) : List Char → List Char
  | [] => []
  | c :: rest =>
    let lowered :=
      if c.toNat = 0x3A3 ∧ leadsToLetter before ∧ !leadsToLetter rest then [Char.ofNat 0x3C2] else Text.lowerForm c
    lowered ++ lowerName (c :: before) rest

/-! ## Labels -/

/-- Whether a letter has a composed form with a mark. -/
def composes (letter mark : Char) : Bool :=
  compositions.any fun entry => entry.1 == mark.toNat && entry.2.contains letter.toNat

/-- Whether marks stand by rising class and none composes with its letter. `letter` is what the marks belong to, and
    `last` the class of the last of them: a mark meets its letter past marks of lower classes only. -/
def isComposedFrom (letter : Option Char) (last : Nat) : List Char → Bool
  | [] => true
  | c :: rest =>
    let k := combiningClass c
    let isPlaced := k == 0 || last ≤ k
    let meets := last == 0 || last < k
    isPlaced && !(meets && letter.any (composes · c)) && isComposedFrom (if k == 0 then some c else letter) k rest

/-- Hyphens stand neither at the ends of a label nor together at its third and fourth place. -/
def hyphensFit (label : List Char) : Bool :=
  label.head? != some '-' && label.getLast? != some '-' && (label.drop 2).take 2 != ['-', '-']

/-- The first character that is not an accent. -/
def firstLetter? (cs : List Char) : Option Char := cs.find? fun c => !isAccent c

/-- The combining class of the signs that take a consonant's vowel. -/
def viramaClass : Nat := 9

/-- Whether a joiner between two parts of a label, the first one reversed, has its place: after a sign that takes
    the vowel, and the joiner that parts letters also between letters that would join. -/
def joinerFits (c : Char) (before after : List Char) : Bool :=
  (before.head?.any fun b => combiningClass b == viramaClass)
    || (c.toNat == 0x200C && (firstLetter? before).any (isMember joinsAfterTurns)
        && (firstLetter? after).any (isMember joinsBeforeTurns))

/-- Whether a code point is a digit of the first kind of Arabic digits, or of the second. -/
def isArabicDigit (c : Char) : Bool := isMember arabicDigitTurns c

def isExtendedArabicDigit (c : Char) : Bool := 0x6F0 ≤ c.toNat && c.toNat ≤ 0x6F9

/-- Whether a character that needs a context has it between two parts of a label, the first one reversed. -/
def contextFits (c : Char) (before after : List Char) : Bool :=
  let n := c.toNat
  let whole := before ++ after
  if n = 0x200C ∨ n = 0x200D then joinerFits c before after
  else if n = 0xB7 then before.head? == some 'l' && after.head? == some 'l'
  else if n = 0x375 then after.head?.any (isMember greekTurns)
  else if n = 0x5F3 ∨ n = 0x5F4 then before.head?.any (isMember hebrewTurns)
  else if n = 0x30FB then whole.any (isMember japaneseTurns)
  else if 0x660 ≤ n ∧ n ≤ 0x669 then !whole.any isExtendedArabicDigit
  else if 0x6F0 ≤ n ∧ n ≤ 0x6F9 then !whole.any fun d => 0x660 ≤ d.toNat && d.toNat ≤ 0x669
  else false

/-- Whether every character of a label may stand where it does, `before` being the reversed part before it. -/
def charactersFit (before : List Char) : List Char → Bool
  | [] => true
  | c :: rest => (isMember labelTurns c || contextFits c before rest) && charactersFit (c :: before) rest

def isRightToLeft (c : Char) : Bool := isMember rightToLeftTurns c

/-- The digits that are written from left to right. -/
def isEuropeanDigit (c : Char) : Bool := Json.isAsciiDigit c || isExtendedArabicDigit c

/-- A label with a letter or digit of a script from right to left begins with such a letter, has no letter of another
    script, ends in a letter or a digit, marks apart, and has digits of one kind only. -/
def directionFits (label : List Char) : Bool :=
  if !label.any fun c => isRightToLeft c || isArabicDigit c then true
  else
    (label.head?.any isRightToLeft)
      && (label.all fun c => isRightToLeft c || isArabicDigit c || isEuropeanDigit c || isMember neutralTurns c
          || isAccent c)
      && ((firstLetter? label.reverse).any fun c => isRightToLeft c || isArabicDigit c || isEuropeanDigit c)
      && !(label.any isArabicDigit && label.any isEuropeanDigit)

/-- Whether a text in lower case is a label. -/
def isLabel (label : List Char) : Bool :=
  !label.isEmpty && isComposedFrom none 0 label && hyphensFit label && !(label.head?.any (isMember markTurns))
    && charactersFit [] label && directionFits label

/-- What labels in ASCII begin with that stand for others. -/
def encodedStart : List Char := "xn--".toList

/-- Whether what follows that beginning stands for a label. -/
def isEncoded (cs : List Char) : Bool :=
  cs.getLast? != some '-' && (Text.Punycode.decode? cs).any fun label => Text.lowerAll label == label && isLabel label

/-- A label in ASCII; it has at most 63 characters. -/
def asciiLabel? (label : List Char) : Option (List Char) :=
  let encoded :=
    if label.any fun c => 128 ≤ c.toNat then
      (if isLabel label then some (encodedStart ++ Text.Punycode.encode label) else none)
    else match Text.dropStart? encodedStart label with
      | some rest => if isEncoded rest then some label else none
      | none => if isLabel label then some label else none
  encoded.filter fun cs => cs.length ≤ 63

/-- The characters that part the labels of a name. -/
def isLabelEnd (c : Char) : Bool := c = '.' || c.toNat = 0x3002 || c.toNat = 0xFF0E || c.toNat = 0xFF61

/-- The number of characters of the longest name, besides a point at its end. -/
def nameLimit : Nat := 253

/-- A name in lower case with ASCII labels. -/
def asciiName? (name : List Char) : Option (List Char) :=
  let parts := splitOnChar '.' (name.map fun c => if isLabelEnd c then '.' else c)
  let isOpen := parts.getLast? != some []
  let labels := if isOpen then parts else parts.dropLast
  if nameLimit + 1 < name.length then none
  else do
    let encoded := List.intercalate ['.'] (← labels.mapM asciiLabel?)
    if encoded.length ≤ nameLimit then some (encoded ++ (if isOpen then [] else ['.'])) else none

/-! ## Hosts -/

def isBracketed (host : List Char) : Bool := host.head? == some '[' && host.getLast? == some ']' && 2 ≤ host.length

/-- The form in which requests name a host; no host has an empty form. -/
def hostText? (host : List Char) : Option (List Char) :=
  if host.isEmpty then some []
  else if isDotted host then (if isFourNumbers host then some host else none)
  else if isBracketed host then (if isGroupAddress (host.drop 1).dropLast then some host else none)
  else if host.all fun c => c.toNat < 128 then
    some ((percentEncode isHostSafe (host.map Char.toLower)).map Char.toLower)
  else asciiName? (lowerName [] host)

end PromptGraph.Http

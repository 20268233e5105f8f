import RpcPipeline.Unicode.Composition
import RpcPipeline.Unicode.Direction
import RpcPipeline.Unicode.Folding
import RpcPipeline.Unicode.Joining
import RpcPipeline.Uri.Punycode

/-!
# `RpcPipeline.Uri.Label`: labels of domain names

A domain name consists of labels. A label is a text; one with characters outside
ASCII has an ASCII form as well, behind `xn--`. Such a text has to make sense: it
does not begin with a mark, a character that joins letters stands where there is
something to join, and in a name that is read from the right as well each label is
read in one direction only.

* `Label.text?`: the text of a label in either form.
* `Label.toAscii`: the ASCII form of a text.
* `Label.readsOneWay`: whether a label is read in one direction.
-/

set_option autoImplicit false

namespace RpcPipeline.Label

open RpcPipeline.Unicode

/-- Whether a character is ASCII. -/
def isAscii (c : Char) : Bool := c.toNat < 0x80

/-- What an ASCII form starts with. -/
def mark : List Char := ['x', 'n', '-', '-']

/-- Whether a label is in ASCII form. -/
def isMarked (label : List Char) : Bool := mark.isPrefixOf label

/-- How many characters a label that is not in ASCII may have. -/
def longestText : Nat := 1000

/-- How many characters an ASCII form may have behind its mark. -/
def longestForm : Nat := 2000

/-! ### Joiners -/

/-- The character that keeps letters from being joined. -/
def nonJoiner : Char := '\u200C'

/-- The character that joins letters. -/
def joiner : Char := '\u200D'

/-- Whether the first character that is not joined through is joined on one of the
given sides. -/
def joinsOn (sides : List Joining) (cs : List Char) : Bool :=
  (cs.find? (joining · ≠ .through)).any fun c => sides.contains (joining c)

/-- Whether a joiner, or its opposite, may stand between what is before it, in
reverse, and what is behind it: after a sign that takes a vowel away, and the
opposite also between letters that would be joined otherwise. -/
def mayJoin (c : Char) (before behind : List Char) : Bool :=
  before.head?.any isVirama ||
    (c = nonJoiner && joinsOn [.left, .both] before && joinsOn [.right, .both] behind)

/-- Whether all joiners of a label may stand where they do. What is before comes in
reverse. -/
def joinersFit : (before : List Char) → List Char → Bool
  | _, [] => true
  | before, c :: behind =>
    ((c ≠ joiner && c ≠ nonJoiner) || mayJoin c before behind) && joinersFit (c :: before) behind

/-! ### Directions -/

/-- Whether a character is read from the right, or goes with what is. -/
def isFromRight (c : Char) : Bool :=
  if isAscii c then false
  else [.rightToLeft, .arabicLetter, .arabicNumber].contains (direction c)

/-- Whether a character may stand in a label of either direction. -/
def fitsEither (d : Direction) : Bool :=
  match d with
  | .europeanNumber | .europeanSeparator | .europeanTerminator | .commonSeparator | .attached
  | .unseen | .neutral => true
  | .leftToRight | .rightToLeft | .arabicLetter | .arabicNumber | .blank => false

/-- Whether a label is read in one direction. Its first letter says in which; the
last character, marks aside, may be a digit as well. -/
def readsOneWay (label : List Char) : Bool :=
  match label.map direction with
  | [] => true
  | first :: rest =>
    let reversed := rest.reverse.dropWhile (· = .attached)
    let endsIn (ends : List Direction) : Bool := reversed.head?.all ends.contains
    match first with
    | .leftToRight =>
      endsIn [.leftToRight, .europeanNumber] &&
        reversed.all fun d => d = .leftToRight || fitsEither d
    | .rightToLeft | .arabicLetter =>
      endsIn [.rightToLeft, .arabicLetter, .europeanNumber, .arabicNumber] &&
        (reversed.all fun d =>
          [.rightToLeft, .arabicLetter, .arabicNumber].contains d || fitsEither d) &&
        -- Digits of both kinds would run in both directions.
        !(reversed.contains .europeanNumber && reversed.contains .arabicNumber)
    | _ => false

/-! ### Forms -/

/-- Whether a text outside ASCII makes sense as a label. -/
def isSound (text : List Char) : Bool :=
  !text.head?.any isMark && joinersFit [] text && text.length ≤ longestText

/-- Whether folding and composing leave a text as it is. -/
def isFolded (text : List Char) : Bool :=
  (text.all fun c => fold? c == some [c]) && compose text == text

/-- The text of a folded label, if it makes sense. One in ASCII form has to stand
for a text outside ASCII that is folded itself. -/
def text? (label : List Char) : Option (List Char) := do
  if isMarked label then
    let form := label.drop mark.length
    if longestForm < form.length then none
    let text ← Punycode.decode? form
    if !text.all isAscii && isFolded text && isSound text then some text else none
  else if label.all isAscii then some label
  else if isSound label then some label
  else none

/-- The ASCII form of a text. -/
def toAscii (text : List Char) : List Char :=
  if text.all isAscii then text else mark ++ Punycode.encode text

end RpcPipeline.Label

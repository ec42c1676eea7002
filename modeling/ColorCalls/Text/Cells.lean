import ColorCalls.Text.Basic
import ColorCalls.Text.Emoji
import ColorCalls.Text.WideCells
import ColorCalls.Text.ZeroCells

/-! The number of terminal cells a text fills. Most characters fill one cell each, wide ones two,
marks none. Some sequences fill more or fewer cells than their characters alone: a carriage return
with its line feed, pictures built from several emoji, variations of emoji and of quotation marks,
and the ligatures of a few scripts. A text is measured from its end, so that each character is met
together with what is known of the text after it. -/

namespace ColorCalls.Text

/-- What a text begins with, as far as the character before it may join it. A joined beginning has
a joiner in front that was already counted. -/
inductive Head where
  | other
  | lineFeed
  | picture
  | skinTone
  | region (several : Bool)
  | joinedPicture
  | joinedKeycap
  /-- Regional indicators before a joined picture: one, an even number, or an odd one above one. -/
  | joinedRegion
  | joinedRegionsEven
  | joinedRegionsOdd
  /-- Tags that end a flag before a joined picture: so many letters, or so many digits and then
  letters. -/
  | joinedTagLetters (count : Nat)
  | joinedTagDigits (count : Nat)
  | arabicAlef
  | hebrewLamed (joined : Bool)
  | bugineseYa (joined : Bool)
  | bugineseVowel
  | khmerLetter
  | lisuTone
  | orkhonI (joined : Bool)
  | tifinaghLetter (joined : Bool)
  | tifinaghJoiner
  | raiE
  | raiAi
  deriving DecidableEq, Repr

namespace Head

/-- Ligatures that ignorable marks and joiners between their letters do not break. -/
def isLigatureEnd : Head → Bool
  | hebrewLamed _ | bugineseYa _ | bugineseVowel | khmerLetter | lisuTone | orkhonI _
  | tifinaghLetter _ | tifinaghJoiner => true
  | _ => false

def outlastsSelector (h : Head) : Bool := h.isLigatureEnd || h == arabicAlef

def takesPictureSelector : Head → Bool
  | joinedPicture | joinedKeycap => true
  | _ => false

def join : Head → Head
  | hebrewLamed _ => hebrewLamed true
  | bugineseYa _ => bugineseYa true
  | orkhonI _ => orkhonI true
  | tifinaghLetter _ => tifinaghLetter true
  | h => h

end Head

/-- Variation selectors: U+FE0F for pictures, U+FE0E for symbols, and U+FE01 for wide quotation
marks. -/
inductive Selector where
  | picture
  | symbol
  | wideQuote
  deriving DecidableEq, Repr

structure Following where
  head : Head := .other
  selector : Option Selector := none
  deriving DecidableEq, Repr

namespace Following

def select (f : Following) (s : Selector) : Following :=
  if f.head.outlastsSelector || (s = .picture && f.head.takesPictureSelector) then
    { f with selector := some s }
  else { selector := some s }

/-- The beginning without a selector that the character before it has no use for. -/
def unselect (f : Following) : Following :=
  if f.selector = none then f
  else if f.head.outlastsSelector then { head := f.head }
  else {}

end Following

def isArabicAlef (c : Char) : Bool :=
  inRanges [(0x622, 0x623), (0x625, 0x625), (0x627, 0x627), (0x671, 0x673), (0x675, 0x675),
    (0x773, 0x774), (0x870, 0x882)] c

def isArabicLam (c : Char) : Bool :=
  inRanges [(0x644, 0x644), (0x6b5, 0x6b8), (0x76a, 0x76a), (0x8a6, 0x8a6), (0x8c7, 0x8c7)] c

def isKhmerSubscript (c : Char) : Bool :=
  inRanges [(0x1780, 0x1782), (0x1784, 0x1787), (0x1789, 0x178c), (0x178e, 0x1793),
    (0x1795, 0x1798), (0x179b, 0x179d), (0x17a0, 0x17a0), (0x17a2, 0x17a2), (0x17a7, 0x17a7),
    (0x17ab, 0x17ac), (0x17af, 0x17af)] c

def isTifinaghLetter (c : Char) : Bool := inRanges [(0x2d31, 0x2d65), (0x2d6f, 0x2d6f)] c

def isIgnorableMark (c : Char) : Bool :=
  inRanges [(0x34f, 0x34f), (0x17b4, 0x17b5), (0x180b, 0x180d), (0x180f, 0x180f),
    (0xfe00, 0xfe0f), (0xe0100, 0xe01ef)] c

def isCurvedQuote (c : Char) : Bool := c = '\u2018' || c = '\u2019' || c = '\u201C' || c = '\u201D'

def cellsOfChar (c : Char) : Nat :=
  if c.toNat ≤ 0xa0 then 1
  else if c = '\u17D8' then 3
  else if isZeroCell c then 0
  else if isWideCell c then 2
  else 1

def following (c : Char) : Following :=
  if c = '\n' then { head := .lineFeed }
  else if c = '\uFE0F' then { selector := some .picture }
  else if c = '\uFE0E' then { selector := some .symbol }
  else if c = '\uFE01' then { selector := some .wideQuote }
  else if isPicture c then { head := .picture }
  else if isSkinTone c then { head := .skinTone }
  else if isRegionalIndicator c then { head := .region false }
  else if isArabicAlef c then { head := .arabicAlef }
  else if c = '\u05DC' then { head := .hebrewLamed false }
  else if c = '\u1A10' then { head := .bugineseYa false }
  else if isKhmerSubscript c then { head := .khmerLetter }
  else if c = '\uA4FC' ∨ c = '\uA4FD' then { head := .lisuTone }
  else if c = Char.ofNat 0x10c03 then { head := .orkhonI false }
  else if isTifinaghLetter c then { head := .tifinaghLetter false }
  else if c = Char.ofNat 0x16d67 then { head := .raiE }
  else if c = Char.ofNat 0x16d68 then { head := .raiAi }
  else {}

/-- The cells that a character adds in front of a picture it is joined to or part of, and what it
leaves to the one before it. -/
def beforePicture? (c : Char) : Head → Option (Int × Head)
  | .skinTone =>
      if c = '\u200D' then some (0, .joinedPicture)
      else if takesSkinTone c then some (0, .picture) else none
  | .picture => if c = '\u200D' then some (0, .joinedPicture) else none
  | .region several =>
      if isRegionalIndicator c then some (1, .region true)
      else if several && c = '\u200D' then some (0, .joinedPicture) else none
  | .joinedPicture =>
      if c = '\u20E3' then some (0, .joinedKeycap)
      else if isRegionalIndicator c then some (1, .joinedRegion)
      else if isSkinTone c then some (0, .skinTone)
      else if c = Char.ofNat 0xe007f then some (0, .joinedTagLetters 0)
      else if isPicture c then some (0, .picture) else none
  | .joinedRegion => if isRegionalIndicator c then some (-1, .joinedRegionsEven) else none
  | .joinedRegionsEven =>
      if isRegionalIndicator c then some (3, .joinedRegionsOdd)
      else if c = '\u200D' then some (0, .joinedPicture) else none
  | .joinedRegionsOdd =>
      if isRegionalIndicator c then some (-1, .joinedRegionsEven)
      else if c = '\u200D' then some (0, .joinedPicture) else none
  | .joinedTagLetters n =>
      if isTagLetter c && n < 6 then some (0, .joinedTagLetters (n + 1))
      else if isTagDigit c && n < 5 then some (0, .joinedTagDigits 1)
      else if c = Char.ofNat 0x1f3f4 && 3 ≤ n then some (0, .picture) else none
  | .joinedTagDigits n =>
      if isTagDigit c && n < 3 then some (0, .joinedTagDigits (n + 1))
      else if c = Char.ofNat 0x1f3f4 && n = 3 then some (0, .picture) else none
  | _ => none

def beforeLigature? (c : Char) : Head → Option (Int × Head)
  | .arabicAlef =>
      if isArabicLam c then some (0, .other)
      else if isJoinTransparent c then some (0, .arabicAlef) else none
  | .hebrewLamed true => if c = '\u05D0' then some (0, .other) else none
  | .bugineseYa true => if c = '\u1A17' then some (0, .bugineseVowel) else none
  | .bugineseVowel => if c = '\u1A15' then some (0, .other) else none
  | .khmerLetter => if c = '\u17D2' then some (-1, .other) else none
  | .lisuTone => if '\uA4F8' ≤ c ∧ c ≤ '\uA4FB' then some (0, .other) else none
  | .orkhonI true => if c = Char.ofNat 0x10c32 then some (0, .other) else none
  | .tifinaghLetter joined =>
      if c = '\u2D7F' then some (1, .tifinaghJoiner)
      else if joined && isTifinaghLetter c then some (0, .other) else none
  | .tifinaghJoiner => if isTifinaghLetter c then some (-1, .other) else none
  | .raiE =>
      if c = Char.ofNat 0x16d63 ∨ c = Char.ofNat 0x16d69 then some (0, .other)
      else if c = Char.ofNat 0x16d67 then some (0, .raiAi)
      else if c = Char.ofNat 0x16d68 then some (1, .raiE) else none
  | .raiAi => if c = Char.ofNat 0x16d63 then some (0, .other) else none
  | _ => none

def beforeHead (c : Char) (h : Head) : Int × Following :=
  if h.isLigatureEnd && c = '\u200D' then (0, { head := h.join })
  else if h.isLigatureEnd && isIgnorableMark c then (0, { head := h })
  else
    match beforeLigature? c h, beforePicture? c h with
    | some (n, h), _ => (n, { head := h })
    | none, some (n, h) => (n, { head := h })
    | none, none => (cellsOfChar c, following c)

def before (c : Char) (f : Following) : Int × Following :=
  if f.selector = some .picture && hasPictureVariation c then
    (if f.head.takesPictureSelector then 0 else 2, { head := .picture })
  else
    let f := if f.selector = some .picture then f.unselect else f
    if c.toNat ≤ 0xa0 then (if c = '\r' && f.head = .lineFeed then 0 else 1, following c)
    else if c = '\uFE0F' then (0, f.select .picture)
    else if c = '\uFE0E' then (0, f.select .symbol)
    else if c = '\uFE01' then (0, f.select .wideQuote)
    else if f.selector = some .symbol && hasSymbolVariation c then (1, {})
    else if f.selector = some .wideQuote && isCurvedQuote c then (2, {})
    else beforeHead c f.unselect.head

/-- The cells of a text, and what it begins with. -/
def measure : Text → Int × Following
  | [] => (0, {})
  | c :: r =>
      let (rest, f) := measure r
      let (n, f) := before c f
      (n + rest, f)

def cells (t : Text) : Nat := (measure t).1.toNat

end ColorCalls.Text

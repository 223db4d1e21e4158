import FrameStream.Text.Quoted

/-!
# Patterns for source ids

A pattern is a text with exactly one conversion, which stands for the index of a stream: a percent sign, flags, a
width, and the kind of numeral.  A doubled percent sign stands for one.  `Pattern.parse` reads a pattern from left
to right and tells the first thing that is wrong with it; `Pattern.render` puts an index in.
-/

namespace FrameStream

/-- Why a text is no pattern. -/
inductive PatternFault where
  | widthTooLarge
  | unsupported (kind : Char)
  | incomplete
  | several
  | missing
  deriving DecidableEq

def PatternFault.message : PatternFault → String
  | widthTooLarge => "conversion width is too large"
  | unsupported kind => s!"unsupported conversion '%{kind}'"
  | incomplete => "incomplete conversion at end of pattern"
  | several => "more than one conversion"
  | missing => "no conversion for the stream index"

/-! ### Conversions -/

/-- How the index is written.  A plain text takes neither sign nor base mark, and is not padded with zeros. -/
inductive NumeralKind where
  | decimal | text | hex | upperHex | octal
  deriving DecidableEq

structure Conversion where
  kind : NumeralKind
  leftAligned : Bool
  zeroPadded : Bool
  /-- The base is marked. -/
  marked : Bool
  sign : Option Char
  width : Nat
  deriving DecidableEq

def NumeralKind.ofChar? (c : Char) : Option NumeralKind :=
  if c = 'd' ∨ c = 'i' ∨ c = 'u' then some decimal
  else if c = 's' then some text
  else if c = 'x' then some hex
  else if c = 'X' then some upperHex
  else if c = 'o' then some octal
  else none

def NumeralKind.digits (index : Nat) : NumeralKind → List Char
  | decimal | text => Nat.toDigits 10 index
  | hex => Nat.toDigits 16 index
  | upperHex => (Nat.toDigits 16 index).map Char.toUpper
  | octal => Nat.toDigits 8 index

def NumeralKind.baseMark : NumeralKind → List Char
  | hex => ['0', 'x']
  | upperHex => ['0', 'X']
  | octal => ['0', 'o']
  | decimal | text => []

namespace Conversion

/-- Sign and base mark, which stay in front of zeros. -/
def lead (c : Conversion) : List Char :=
  if c.kind = .text then []
  else c.sign.toList ++ (if c.marked then c.kind.baseMark else [])

/-- How much is missing to the width. -/
def padding (c : Conversion) (index : Nat) : Nat :=
  c.width - (c.lead.length + (c.kind.digits index).length)

def render (c : Conversion) (index : Nat) : List Char :=
  let digits := c.kind.digits index
  let pad := c.padding index
  if c.leftAligned then c.lead ++ digits ++ List.replicate pad ' '
  else if c.zeroPadded ∧ c.kind ≠ .text then c.lead ++ List.replicate pad '0' ++ digits
  else List.replicate pad ' ' ++ c.lead ++ digits

/-- One repeat of a character gives no more than this.  What stands around the padding is not counted, and neither is
the memory that such texts would take. -/
def longestPadding : Nat := 0x7FFFFFFFFFFFFFFF

/-- More padding is asked for than one repeat gives. -/
def overflows (c : Conversion) (index : Nat) : Bool := longestPadding < c.padding index

end Conversion

/-! ### Reading -/

structure Pattern where
  before : List Char
  conversion : Conversion
  after : List Char
  deriving DecidableEq

namespace Pattern

def isFlag (c : Char) : Bool := c == '-' || c == '0' || c == '#' || c == '+' || c == ' '

/-- A width has to fit a machine word. -/
def widthBound : Nat := 0x10000000000000000

/-- A plus among the flags puts a plus before the numeral, else a blank puts a blank. -/
def signOf (flags : List Char) : Option Char :=
  if flags.contains '+' then some '+' else if flags.contains ' ' then some ' ' else none

/-- A conversion behind its percent sign, and what follows it. -/
def readConversion (cs : List Char) : Except PatternFault (Conversion × List Char) :=
  let flags := cs.takeWhile isFlag
  let rest := cs.dropWhile isFlag
  let width := Nat.ofDigitChars 10 (rest.takeWhile Char.isDigit) 0
  if widthBound ≤ width then .error .widthTooLarge
  else match rest.dropWhile Char.isDigit with
    | [] => .error .incomplete
    | c :: rest =>
      match NumeralKind.ofChar? c with
      | none => .error (.unsupported c)
      | some kind =>
        .ok ({ kind, leftAligned := flags.contains '-', zeroPadded := flags.contains '0',
               marked := flags.contains '#', sign := signOf flags, width }, rest)

/-- The text up to a lone percent sign, and what follows that sign if there is one. -/
def readText : List Char → List Char × Option (List Char)
  | [] => ([], none)
  | '%' :: '%' :: cs =>
    let (text, rest) := readText cs
    ('%' :: text, rest)
  | '%' :: cs => ([], some cs)
  | c :: cs =>
    let (text, rest) := readText cs
    (c :: text, rest)

/-- Nothing but text may follow the conversion.  A second conversion is read before it is refused. -/
def parse (cs : List Char) : Except PatternFault Pattern :=
  match readText cs with
  | (_, none) => .error .missing
  | (before, some rest) => do
    let (conversion, rest) ← readConversion rest
    match readText rest with
    | (after, none) => .ok { before, conversion, after }
    | (_, some rest) => do
      let _ ← readConversion rest
      .error .several

/-! ### Ids -/

def render (p : Pattern) (index : Nat) : String :=
  String.ofList (p.before ++ p.conversion.render index ++ p.after)

/-- The ids of the first `count` streams. -/
def expand (p : Pattern) (count : Nat) : List String := (List.range count).map p.render

/-- One of these ids cannot be padded. -/
def overflows (p : Pattern) (count : Nat) : Bool := (List.range count).any p.conversion.overflows

end Pattern

end FrameStream

import ScoreLexer.Proofs.Lexer.Argument

namespace ScoreLexer

def isSymbolChar (c : Char) : Bool :=
  !Text.isBlank c && !(['(', ')', '\'', '"', Text.backquote, ',', ';'].contains c)

structure SchemeSymbol where
  first : Char
  more : Text
  isLetter_first : Text.isAsciiLetter first = true
  isSymbolChar_more : more.all isSymbolChar = true

def SchemeSymbol.text (symbol : SchemeSymbol) : Text := symbol.first :: symbol.more

structure Digits where
  text : Text
  text_ne_nil : text ≠ []
  isDigit_text : text.all Text.isAsciiDigit = true

inductive Divider where
  | point | slash
deriving DecidableEq, Repr

def Divider.char : Divider → Char
  | point => '.'
  | slash => '/'

-- A number: an integer, a decimal number or a fraction.
structure SchemeNumber where
  isNegative : Bool
  digits : Digits
  more? : Option (Divider × Digits)

namespace SchemeNumber

def sign (number : SchemeNumber) : Text := if number.isNegative then ['-'] else []

def more (number : SchemeNumber) : Text :=
  number.more?.elim [] fun (divider, digits) => divider.char :: digits.text

def text (number : SchemeNumber) : Text := number.sign ++ (number.digits.text ++ number.more)

end SchemeNumber

inductive QuoteMark where
  | quote | quasiquote | unquote | splice
deriving DecidableEq, Repr

def QuoteMark.text : QuoteMark → Text
  | quote => ['\'']
  | quasiquote => [Text.backquote]
  | unquote => [',']
  | splice => [',', '@']

inductive Datum where
  | symbol (name : SchemeSymbol)
  | number (value : SchemeNumber)
  | truth (value : Bool)
  | quotation (string : Quotation)
  | list (elements : List Datum)
  | quoted (mark : QuoteMark) (datum : Datum)
  | music (items : List Item)

namespace Datum

mutual

def text : Datum → Text
  | .symbol name => name.text
  | .number value => value.text
  | .truth value => ['#', if value then 't' else 'f']
  | .quotation string => string.text
  | .list elements => ['('] ++ (spaced ' ' (texts elements) ++ [')'])
  | .quoted mark datum => mark.text ++ datum.text
  | .music items => enclosed ' ' ['#', '{'] (Item.texts items) ['#', '}']

def texts : List Datum → List Text
  | [] => []
  | datum :: data => datum.text :: texts data

end

mutual

def kinds : Datum → List Kind
  | .symbol _ => [.schemeWord]
  | .number _ => [.schemeNumber]
  | .truth _ => [.schemeBool]
  | .quotation string => string.kinds
  | .list elements =>
      [.schemeOpenParen] ++ (spaced .space (kindsOf elements) ++ [.schemeCloseParen])
  | .quoted _ datum => [.schemeQuote] ++ datum.kinds
  | .music items =>
      enclosed .space [.schemeLilyPondStart] (Item.kindsOf items) [.schemeLilyPondEnd]

def kindsOf : List Datum → List (List Kind)
  | [] => []
  | datum :: data => datum.kinds :: kindsOf data

end

-- A quoted list of a negative fraction, an empty list and a pitch.
example :
    text (.quoted .quote
      (.list
        [.number ⟨true, ⟨"1".toList, by decide, by decide⟩,
            some (.slash, ⟨"2".toList, by decide, by decide⟩)⟩,
          .list [],
          .music [.pitch ⟨['c'], [], none, by decide, by decide, by decide⟩]])) =
      "'(-1/2 () #\x7b c #\x7d)".toList := by
  decide

end Datum

end ScoreLexer

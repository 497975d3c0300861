import ScoreLexer.Text.Basic

namespace ScoreLexer.Toml

def isBlank (c : Char) : Bool := c == ' ' || c == '\t'

def skipBlank (text : Text) : Text := text.dropWhile isBlank

-- Whether a character may stand in a comment or a string. Controls other than the tab may not.
def isPlain (c : Char) : Bool := c == '\t' || (0x20 ≤ c.toNat && c.toNat != 0x7F)

-- The text after a line end at its front. A carriage return counts only before a newline.
def afterLineEnd? : Text → Option Text
  | '\r' :: '\n' :: rest => some rest
  | '\n' :: rest => some rest
  | _ => none

def skipBlankLines : Text → Text
  | [] => []
  | '\r' :: '\n' :: rest => skipBlankLines rest
  | c :: rest => if c = '\n' || isBlank c then skipBlankLines rest else c :: rest

-- The text after blanks, line ends and comments. A comment goes on to the end of its line.
def skipSpacing (inComment : Bool) : Text → Option Text
  | [] => some []
  | '\r' :: '\n' :: rest => skipSpacing false rest
  | c :: rest =>
      if c = '\n' then skipSpacing false rest
      else if inComment then if isPlain c then skipSpacing true rest else none
      else if c = '#' then skipSpacing true rest
      else if isBlank c then skipSpacing false rest
      else some (c :: rest)

def lineEnd? (inComment : Bool) : Text → Option Text
  | [] => some []
  | '\r' :: '\n' :: rest => some rest
  | c :: rest =>
      if c = '\n' then some rest
      else if inComment then if isPlain c then lineEnd? true rest else none
      else if c = '#' then lineEnd? true rest
      else if isBlank c then lineEnd? false rest
      else none

end ScoreLexer.Toml

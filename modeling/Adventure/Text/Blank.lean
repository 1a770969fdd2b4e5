import Adventure.Text.CodeRanges

/-! The blank characters that separate words and that trimming removes. -/

namespace Adventure.Text

/-- The blank code points. -/
def blanks : CodeRanges where
  ranges :=
    #[
      (9, 13), (28, 32), (133, 133), (160, 160), (5760, 5760), (8192, 8202),
      (8232, 8233), (8239, 8239), (8287, 8287), (12288, 12288)]

/-- Whether `c` is a blank character. -/
def isBlank (c : Char) : Bool := blanks.contains c

/-- The characters of a text without its leading and trailing blanks. -/
def trimChars (cs : List Char) : List Char :=
  ((cs.dropWhile isBlank).reverse.dropWhile isBlank).reverse

/-- A text without its leading and trailing blanks. -/
def trim (s : String) : String := String.ofList (trimChars s.toList)

/-- Splits the characters of a text at every run of blanks; `cur` is the word read so far,
reversed. Empty words are not returned. -/
def wordsFrom (cur : List Char) : List Char → List (List Char)
  | [] => if cur.isEmpty then [] else [cur.reverse]
  | c :: cs =>
    if isBlank c then
      if cur.isEmpty then wordsFrom [] cs else cur.reverse :: wordsFrom [] cs
    else wordsFrom (c :: cur) cs

/-- The words of a text: the maximal runs of characters that are not blank. -/
def words (s : String) : List String := (wordsFrom [] s.toList).map String.ofList

end Adventure.Text

/-!
# White space and letter case in labels

Labels, list elements and numbers written by people may carry white space
around them and any letter case.  White space is the Unicode property of that
name; letter case is folded for ASCII letters only, so that a label never
matches a word in another script by accident.
-/

namespace MediaImport.Text

/-- The Unicode property White_Space. -/
def isBlank (character : Char) : Bool :=
  let code := character.toNat
  (0x09 ≤ code && code ≤ 0x0d) || code == 0x20 || code == 0x85 || code == 0xa0 ||
    code == 0x1680 || (0x2000 ≤ code && code ≤ 0x200a) || code == 0x2028 ||
    code == 0x2029 || code == 0x202f || code == 0x205f || code == 0x3000

/-- Characters without the blanks in front. -/
def trimStart (characters : List Char) : List Char :=
  characters.dropWhile isBlank

/-- Characters without the blanks at either end. -/
def trimChars (characters : List Char) : List Char :=
  (trimStart (trimStart characters).reverse).reverse

/-- A text without the blanks at either end. -/
def trim (text : String) : String :=
  String.ofList (trimChars text.toList)

/-- A text with its ASCII letters in lower case. -/
def lowercase (text : String) : String :=
  String.ofList (text.toList.map Char.toLower)

/-- Two texts that differ at most in the case of ASCII letters. -/
def sameLetters (left right : String) : Bool :=
  lowercase left == lowercase right

/-- Cut characters at every occurrence of a separator. -/
def splitChars (separator : Char) : List Char → List (List Char)
  | [] => [[]]
  | character :: rest =>
    if character = separator then [] :: splitChars separator rest
    else
      match splitChars separator rest with
      | [] => [[character]]
      | piece :: pieces => (character :: piece) :: pieces

/-- Cut a text at every occurrence of a separator. -/
def split (separator : Char) (text : String) : List String :=
  (splitChars separator text.toList).map String.ofList

theorem splitChars_ne_nil (separator : Char) (characters : List Char) :
    splitChars separator characters ≠ [] := by
  induction characters with
  | nil => simp [splitChars]
  | cons character rest ih =>
    by_cases same : character = separator
    · simp [splitChars, same]
    · simp only [splitChars, same, if_false]
      split <;> simp

end MediaImport.Text

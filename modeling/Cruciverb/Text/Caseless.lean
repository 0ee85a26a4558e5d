namespace Cruciverb.Text

-- Simple case folding, restricted to the characters that fold to an ASCII letter: besides the
-- capitals these are the long s and the kelvin sign.
def fold (c : Char) : Char :=
  if c = '\u017F' then 's' else if c = '\u212A' then 'k' else c.toLower

-- The text after `word`, if the text begins with it once each character went through `key`.
def dropWord? (key : Char → Char) : (word cs : List Char) → Option (List Char)
  | [], cs => some cs
  | _ :: _, [] => none
  | w :: word, c :: cs => if key c = w then dropWord? key word cs else none

-- The text after the first of the words that it begins with.
def dropAnyWord? {α : Type} (key : Char → Char) (words : List (List Char × α)) (cs : List Char) :
    Option (α × List Char) :=
  words.findSome? fun (word, value) => (dropWord? key word cs).map (value, ·)

end Cruciverb.Text

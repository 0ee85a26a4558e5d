namespace Cruciverb.Text

-- `skip` characters belong to a piece that has been replaced already.
def replaceFrom (old new : List Char) : (skip : Nat) → List Char → List Char
  | _, [] => []
  | skip + 1, _ :: cs => replaceFrom old new skip cs
  | 0, c :: cs =>
    if old.isPrefixOf (c :: cs) then new ++ replaceFrom old new (old.length - 1) cs
    else c :: replaceFrom old new 0 cs

-- From the left; the pieces that are replaced do not overlap.
def replace (old new cs : List Char) : List Char := replaceFrom old new 0 cs

-- Whether the piece stands anywhere in the text.
def occurs (piece : List Char) : List Char → Bool
  | [] => piece.isEmpty
  | c :: cs => piece.isPrefixOf (c :: cs) || occurs piece cs

end Cruciverb.Text

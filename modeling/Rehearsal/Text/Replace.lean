namespace Rehearsal.Text

-- The count says how many characters of the last match are still to be passed over.
def replaceFrom (old new : List Char) : Nat → List Char → List Char
  | _, [] => []
  | skip + 1, _ :: rest => replaceFrom old new skip rest
  | 0, c :: rest =>
      if old.isPrefixOf (c :: rest) then new ++ replaceFrom old new (old.length - 1) rest
      else c :: replaceFrom old new 0 rest

-- Every occurrence of the old text, from the left and without overlap, gives way to the new one.
def replace (old new text : List Char) : List Char := replaceFrom old new 0 text

end Rehearsal.Text

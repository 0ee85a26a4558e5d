namespace Cruciverb.Text

-- What is said of the members of a list is decided along the list, and not by trying all values of
-- their type. It is the same with an option.
instance (priority := 2000) decidableForallMem {α : Type} (p : α → Prop) [DecidablePred p]
    (as : List α) : Decidable (∀ a ∈ as, p a) :=
  List.decidableBAll p as

instance (priority := 2000) decidableForallEqSome {α : Type} (p : α → Prop) [DecidablePred p]
    (o : Option α) : Decidable (∀ a, o = some a → p a) :=
  Option.decidableForallMem o

-- The characters with the White_Space property.
def isBlank (c : Char) : Bool :=
  let n := c.toNat
  (9 ≤ n && n ≤ 13) || n == 0x20 || n == 0x85 || n == 0xA0 || n == 0x1680 ||
    (0x2000 ≤ n && n ≤ 0x200A) || n == 0x2028 || n == 0x2029 || n == 0x202F || n == 0x205F ||
    n == 0x3000

def trimStart (cs : List Char) : List Char := cs.dropWhile isBlank

def trimEnd (cs : List Char) : List Char := (cs.reverse.dropWhile isBlank).reverse

def trim (cs : List Char) : List Char := trimEnd (trimStart cs)

-- The maximal runs of characters that are not blank.
def words (cs : List Char) : List (List Char) := (cs.splitOnP isBlank).filter (· ≠ [])

-- Every run of blanks becomes one space, and none is left at the ends.
def collapse (cs : List Char) : List Char := [' '].intercalate (words cs)

theorem head?_trimStart_not_blank {cs : List Char} {c : Char} (h : (trimStart cs).head? = some c) :
    isBlank c = false := by
  have := List.head?_dropWhile_not isBlank cs
  rw [trimStart] at h
  rw [h] at this
  simpa using this

end Cruciverb.Text

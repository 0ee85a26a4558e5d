import Cruciverb.Text.Blank

namespace Cruciverb.Text

-- Either character ends a line on its own, so a CR LF pair leaves an empty line between them.
def isLineEnd (c : Char) : Bool := c == '\r' || c == '\n'

def lines (cs : List Char) : List (List Char) := cs.splitOnP isLineEnd

-- A comment runs from the first number sign to the end of the line.
def dropComment (line : List Char) : List Char := line.takeWhile (· ≠ '#')

def cleanLine (line : List Char) : List Char := trim (dropComment line)

def cleanLines (cs : List Char) : List (List Char) := (lines cs).map cleanLine

end Cruciverb.Text

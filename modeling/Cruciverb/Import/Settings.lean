import Cruciverb.Grid.Template

namespace Cruciverb

structure Settings where
  -- for puzzles that carry no date of their own
  pubdate : String
  templates : List Template := Template.builtIn
  deriving DecidableEq

end Cruciverb

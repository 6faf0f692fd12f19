/-
What happens on the display: a key is bound, parts are made, the table of stages is filled, the status line changes.
-/

namespace DebugFind.Display

inductive Event where
  /-- a key that does something, with a description of it -/
  | binding (key action description : String)
  /-- a part of the display, with its name and the texts it starts with -/
  | widget (kind : String) (id : Option String) (texts : List String)
  | column (label key : String)
  | row (key : String) (cells : List String)
  /-- a cell of the table gets a new text -/
  | cell (row column text : String)
  /-- the status line gets a new text -/
  | status (text : String)
deriving DecidableEq, Repr

end DebugFind.Display

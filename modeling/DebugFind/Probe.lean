/-
Commands that the inspected process understands, and its response to a question about an address.
-/
import DebugFind.Address

namespace DebugFind

namespace Command

/-- asks for a listing of the live threads -/
def threadListing : String := "Thread.print"

/-- asks what an address is -/
def findWord : String := "VM.debug find"

/-- asks for a detailed answer -/
def verboseFlag : String := "-verbose"

/-- the command that asks what an address is -/
def find (address : Int) (verbose : Bool := false) : Except Numeral.Error String := do
  let text ← Address.format address
  return findWord ++ " " ++ (if verbose then verboseFlag ++ " " else "") ++ text

end Command

/-- the answer to one question about an address -/
structure ProbeResponse where
  address : Int
  command : String
  text : String
  verbose : Bool := false
  exitStatus : Int := 0
deriving DecidableEq, Repr

end DebugFind

/-
The stages of a scenario, in the only order in which they are reached.
-/

namespace DebugFind

/-- how far a scenario has come -/
inductive Stage where
  | initial
  | threadFound
  | threadClassified
  | badAddressesChecked
  | objectFound
  | objectClassified
  | neighborhoodSwept
  | done
deriving DecidableEq, Repr

namespace Stage

/-- the stages in order -/
def all : List Stage :=
  [.initial, .threadFound, .threadClassified, .badAddressesChecked, .objectFound, .objectClassified,
    .neighborhoodSwept, .done]

/-- the stages that a scenario can reach -/
def reachable : List Stage := all.tail

/-- the place of a stage in the order -/
def number : Stage → Nat
  | .initial => 0
  | .threadFound => 1
  | .threadClassified => 2
  | .badAddressesChecked => 3
  | .objectFound => 4
  | .objectClassified => 5
  | .neighborhoodSwept => 6
  | .done => 7

def name : Stage → String
  | .initial => "INIT"
  | .threadFound => "THREAD_ADDRESS_FOUND"
  | .threadClassified => "THREAD_CLASSIFIED"
  | .badAddressesChecked => "BAD_ADDRESSES_CHECKED"
  | .objectFound => "OBJECT_ADDRESS_FOUND"
  | .objectClassified => "OBJECT_CLASSIFIED"
  | .neighborhoodSwept => "NEIGHBORHOOD_SWEPT"
  | .done => "DONE"

end Stage

/-- a stage that was reached, with what there is to say about it -/
structure Transition where
  stage : Stage
  detail : String := ""
deriving DecidableEq, Repr

end DebugFind

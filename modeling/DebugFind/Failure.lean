/-
The ways in which a run can fail. Four of them are findings of the scenario itself: no address in a listing, a response
that is not what it should be, a channel that does not deliver, a sweep that cannot be laid out. All others are faults
around it.
-/
import DebugFind.Attach.Error
import DebugFind.Classification.Mismatch
import DebugFind.Extraction.Failure
import DebugFind.Profile.Error
import DebugFind.Stage
import DebugFind.Sweep.Range
import DebugFind.Text.Lines
import DebugFind.Text.ShellWords

namespace DebugFind

/-- a command or its response that the channel could not deliver -/
structure ChannelFailure where
  message : String
  command : Option String := none
  output : String := ""
deriving DecidableEq, Repr

/-- the kinds of finding -/
inductive Finding where
  | extraction
  | mismatch
  | channel
  | range
deriving DecidableEq, Repr

namespace Finding

def all : List Finding := [.extraction, .mismatch, .channel, .range]

/-- the name of a kind of finding -/
def title : Finding → String
  | .extraction => "ExtractionFailure"
  | .mismatch => "ClassificationMismatch"
  | .channel => "ChannelFailure"
  | .range => "SweepRangeError"

end Finding

inductive Failure where
  | extraction (f : ExtractionFailure)
  | mismatch (m : Mismatch)
  | channel (f : ChannelFailure)
  | range (e : Sweep.RangeError)
  | numeral (e : Numeral.Error)
  /-- a response was asserted to be of no class -/
  | notAssertable
  /-- a command whose quotes are not closed -/
  | quoting (e : Text.ShellWords.Error)
  | pidNotPositive
  | timeoutNotPositive
  | timeoutTooLarge
  | retriesBelowOne
  | attach (e : Attach.Error)
  | profile (f : Profile.Fault)
  | illegalTransition (start target : Stage)
  /-- a scenario was run a second time -/
  | alreadyRun
  /-- a machine was asked for by a blank class -/
  | blankClass
  /-- the records to write were chosen by a blank level -/
  | blankLevel
  | displayUnavailable
  /-- the user left while the run went on -/
  | interrupted
  /-- a failure that the surroundings brought, with the name of its kind -/
  | foreign (kind message : String)
deriving DecidableEq

namespace Failure

def message : Failure → String
  | .extraction f => f.message
  | .mismatch m => m.message
  | .channel f => f.message
  | .range e => e.message
  | .numeral e => e.message
  | .notAssertable => Classification.unknown.name ++ " is not an assertable classification."
  | .quoting e => e.message
  | .pidNotPositive => "pid must be > 0."
  | .timeoutNotPositive => "timeout_seconds must be > 0."
  | .timeoutTooLarge => "int too large to convert to float"
  | .retriesBelowOne => "retries must be >= 1"
  | .attach e => e.message
  | .profile f => f.message
  | .illegalTransition start target => "Illegal scenario transition " ++ start.name ++ " -> " ++ target.name ++ "."
  | .alreadyRun => "ScenarioRunner instances run only once."
  | .blankClass => "'list' object has no attribute 'lower'"
  | .blankLevel => "attribute name must be string, not 'list'"
  | .displayUnavailable =>
    "Missing dependency 'textual'. Install dependencies with `pip install -e .[dev]`."
  | .interrupted => "interrupted"
  | .foreign _ message => message

/-- whether a failure is a finding of the scenario -/
def isFinding : Failure → Bool
  | .extraction _ | .mismatch _ | .channel _ | .range _ => true
  | _ => false

/-- the name of the kind of failure, which stands for a failure without a text -/
def title : Failure → String
  | .extraction _ => Finding.extraction.title
  | .mismatch _ => Finding.mismatch.title
  | .channel _ => Finding.channel.title
  | .range _ => Finding.range.title
  | .numeral _ | .notAssertable | .quoting _ | .pidNotPositive | .timeoutNotPositive | .retriesBelowOne => "ValueError"
  | .timeoutTooLarge => "OverflowError"
  | .attach _ => "JvmAttachError"
  | .profile f => f.title
  | .illegalTransition .. | .alreadyRun => "RuntimeError"
  | .blankClass => "AttributeError"
  | .blankLevel => "TypeError"
  | .displayUnavailable => "ScenarioTuiError"
  | .interrupted => "Interrupted"
  | .foreign kind _ => kind

/-- the first line of a failure that stopped a run after a stage -/
def line (stage : Stage) (f : Failure) : String :=
  "failed after " ++ stage.name ++ ": " ++
    if h : f.message.toList = [] then f.title
    else String.ofList ((Text.lines f.message.toList).head (Text.lines_ne_nil h))

/-- a numeral as part of a larger computation -/
def ofNumeral {α : Type} (x : Except Numeral.Error α) : Except Failure α := x.mapError .numeral

end Failure

end DebugFind

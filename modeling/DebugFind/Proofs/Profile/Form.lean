/-
What a profile file states. A `Form` is that, as it stands there: numbers, texts and truth values under their keys
(`StandsIn`). It is `Valid` if every value passes its check, and it `Gives` the profile with those values: texts without
the blanks around them, patterns compiled as the runtime has it, sentinels as numbers, the timeout as a floating-point
number.

Each section has a form of its own, and the form of a file holds those of its sections.
-/
import DebugFind.Profile.Reader
import DebugFind.Proofs.Expectation

namespace DebugFind.Profile

open DebugFind.Text DebugFind.Numeral

/-- an object holds a value under a key -/
def Holds (members : List (String × Json)) (key : String) (v : Json) : Prop := Json.member? members key = some v

/-- a text without the blanks around it -/
def stripped (text : String) : String := String.ofList (strip text.toList)

/-- a text is a sentinel: blanks aside, hexadecimal digits behind `0x`, or decimal digits behind a minus sign -/
inductive Sentinel (text : String) : Int → Prop
  | address (digits : List Char) (h : strip text.toList = '0' :: 'x' :: digits) (hne : digits ≠ [])
      (hdigits : ∀ c ∈ digits, isHexDigit c = true) : Sentinel text (ofHex digits)
  | negative (digits : List Char) (h : strip text.toList = '-' :: digits) (hne : digits ≠ [])
      (hdigits : ∀ c ∈ digits, isAsciiDigit c = true) :
    Sentinel text (-(ofDigits 10 (digits.filterMap digitValue?) : Nat))

/-- what a file states about a pattern -/
structure PatternForm where
  name : String
  regex : String
  group : Int

namespace PatternForm

structure StandsIn (form : PatternForm) (members : List (String × Json)) : Prop where
  name : Holds members "name" (.string form.name)
  regex : Holds members "regex" (.string form.regex)
  group : Holds members "group" (.int form.group)

structure Valid (runtime : Runtime) (form : PatternForm) : Prop where
  name : stripped form.name ≠ ""
  group : ∃ pattern, Pattern.compile runtime form.regex = .ok pattern ∧ 1 ≤ form.group ∧ form.group ≤ pattern.groups

structure Gives (runtime : Runtime) (form : PatternForm) (p : ExtractionPattern) : Prop where
  name : p.name = stripped form.name
  source : p.source = form.regex
  pattern : Pattern.compile runtime form.regex = .ok p.pattern
  group : (p.group : Int) = form.group

end PatternForm

/-- what a file states about sweeps -/
structure SweepForm where
  lookback : Int
  count : Int

namespace SweepForm

structure StandsIn (form : SweepForm) (members : List (String × Json)) : Prop where
  lookback : Holds members "lookback" (.int form.lookback)
  count : Holds members "count" (.int form.count)

structure Valid (form : SweepForm) : Prop where
  lookback : 0 ≤ form.lookback
  count : 1 ≤ form.count

structure Gives (form : SweepForm) (settings : SweepSettings) : Prop where
  lookback : (settings.lookback : Int) = form.lookback
  count : (settings.count : Int) = form.count

end SweepForm

/-- what a file states about the expected field -/
structure FieldForm where
  name : String
  typeTag : String
  value : Int

namespace FieldForm

structure StandsIn (form : FieldForm) (members : List (String × Json)) : Prop where
  name : Holds members "name" (.string form.name)
  typeTag : Holds members "type_tag" (.string form.typeTag)
  value : Holds members "value" (.int form.value)

structure Valid (form : FieldForm) : Prop where
  name : stripped form.name ≠ ""
  typeTag : stripped form.typeTag = "I"
  value : IsWord form.value

structure Gives (form : FieldForm) (e : FieldExpectation) : Prop where
  name : e.name = stripped form.name
  typeTag : e.typeTag = "I"
  value : e.value = form.value

end FieldForm

/-- a number of seconds as it stands in a file -/
def secondsValue : Seconds → Json
  | .whole n => .int n
  | .real x => .float x

/-- what a file states about the launcher -/
structure LauncherForm where
  executable : String
  timeout : Seconds

namespace LauncherForm

structure StandsIn (form : LauncherForm) (members : List (String × Json)) : Prop where
  executable : Holds members "executable" (.string form.executable)
  timeout : Holds members "timeout_seconds" (secondsValue form.timeout)

structure Valid (form : LauncherForm) : Prop where
  executable : stripped form.executable ≠ ""
  timeout : form.timeout.nonPositive = false

structure Gives (form : LauncherForm) (settings : LauncherSettings) : Prop where
  executable : settings.executable = stripped form.executable
  timeout : form.timeout.toBinary64? = some settings.timeout

end LauncherForm

/-- what a profile file states -/
structure Form where
  version : Int
  threadPattern : PatternForm
  objectPattern : PatternForm
  sentinels : List String
  sweep : SweepForm
  sweepThreadNeighborhood : Bool
  expectedField : FieldForm
  launcher : LauncherForm

namespace Form

structure StandsIn (form : Form) (members : List (String × Json)) : Prop where
  version : Holds members "version" (.int form.version)
  threadPattern : ∃ inner, Holds members "thread_pattern" (.object inner) ∧ form.threadPattern.StandsIn inner
  objectPattern : ∃ inner, Holds members "object_pattern" (.object inner) ∧ form.objectPattern.StandsIn inner
  sentinels : Holds members "sentinel_addresses" (.array (form.sentinels.map .string))
  sweep : ∃ inner, Holds members "sweep" (.object inner) ∧ form.sweep.StandsIn inner
  sweepThreadNeighborhood : Holds members "sweep_thread_neighborhood" (.bool form.sweepThreadNeighborhood)
  expectedField : ∃ inner, Holds members "expected_field" (.object inner) ∧ form.expectedField.StandsIn inner
  launcher : ∃ inner, Holds members "jcmd" (.object inner) ∧ form.launcher.StandsIn inner

structure Valid (runtime : Runtime) (form : Form) : Prop where
  version : 1 ≤ form.version
  threadPattern : form.threadPattern.Valid runtime
  objectPattern : form.objectPattern.Valid runtime
  sentinels : form.sentinels ≠ [] ∧ ∀ text ∈ form.sentinels, ∃ a, Sentinel text a
  sweep : form.sweep.Valid
  expectedField : form.expectedField.Valid
  launcher : form.launcher.Valid

structure Gives (runtime : Runtime) (form : Form) (p : Profile) : Prop where
  version : (p.version : Int) = form.version
  threadPattern : form.threadPattern.Gives runtime p.threadPattern
  objectPattern : form.objectPattern.Gives runtime p.objectPattern
  sentinels : List.Forall₂ Sentinel form.sentinels p.sentinels
  sweep : form.sweep.Gives p.sweep
  sweepThreadNeighborhood : p.sweepThreadNeighborhood = form.sweepThreadNeighborhood
  expectedField : form.expectedField.Gives p.expectedField
  launcher : form.launcher.Gives p.launcher

end Form

end DebugFind.Profile

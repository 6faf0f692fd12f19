/-
Sweeps: every address of a range is asked for once, in increasing order. The answers are counted and never judged. A
channel that fails ends the sweep, and the log names the address.
-/
import DebugFind.Channel
import DebugFind.Sweep.Report

namespace DebugFind.Sweep

open DebugFind.Numeral

variable {σ : Type}

/-- lays out the addresses from `lookback` before a known address on -/
def layOut (knownGood : Int) (lookback : Int := defaultLookback) (count : Int := defaultCount) :
    Except Failure Range :=
  if lookback < 0 then .error (.range .negativeLookback)
  else if h : 0 < count.toNat then
    if knownGood < lookback then
      match Numeral.write lookback with
      | .ok text => .error (.range (.belowZero knownGood text))
      | .error e => .error (.numeral e)
    else .ok ⟨(knownGood - lookback).toNat, count.toNat, h⟩
  else .error (.range .countBelowOne)

/-- what is told of every answer -/
abbrev Listener (σ : Type) := Int → ProbeResponse → Action σ Unit

/-- asks for one address and counts the answer -/
def step (channel : Channel σ) (logger : Logger) (listener : Option (Listener σ)) (address : Nat) (report : Report) :
    Action σ Report := do
  let response ← (channel.probe address).onFailure fun _ =>
    Action.log .error logger
      ("Sweep probe failed at " ++ hexText address ++ " after " ++ toString report.probes ++ " probes")
  Action.log .debug logger
    ("Sweep " ++ hexText address ++ " -> " ++ (Classification.ofText response.text).name ++
      " (exit " ++ toString response.exitStatus ++ ")")
  match listener with
  | some tell => tell address response
  | none => pure ()
  return report.add response

/-- asks for so many addresses from one on -/
def probes (channel : Channel σ) (logger : Logger) (listener : Option (Listener σ)) (address : Nat) :
    Nat → Report → Action σ Report
  | 0, report => pure report
  | count + 1, report => do
    let report ← step channel logger listener address report
    probes channel logger listener (address + 1) count report

/-- sweeps the neighborhood of a known address -/
def neighborhood (channel : Channel σ) (knownGood : Int) (lookback : Int := defaultLookback)
    (count : Int := defaultCount) (listener : Option (Listener σ) := none) (logger : Logger := .sweeper) :
    Action σ Report := do
  let range ← Action.ofExcept (layOut knownGood lookback count)
  Action.log .info logger
    ("Sweeping " ++ hexText range.start ++ ".." ++ hexText range.last ++ " around " ++ hexText knownGood)
  probes channel logger listener range.start range.count ⟨range.start, range.last, 0, 0, {}⟩

end DebugFind.Sweep

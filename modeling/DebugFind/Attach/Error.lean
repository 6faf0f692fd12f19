/-
Why a machine cannot be attached to. Numbers are given as they are written.
-/

namespace DebugFind.Attach

inductive Error where
  /-- neither a process id nor a main class was given -/
  | noTarget
  /-- the listing command could not be run; the text is the host's -/
  | listingUnavailable (executable text : String)
  /-- the listing command ended with an error status -/
  | listingFailed (executable exitStatus : String)
  | classNotFound (mainClass : String)
  | notRunning (pid : String)
  /-- no attempt has said why it failed -/
  | unknown
deriving DecidableEq, Repr

def Error.message : Error → String
  | .noTarget => "attach_jvm requires either pid or main_class."
  | .listingUnavailable executable text =>
    "Failed to list running JVMs with '" ++ executable ++ " -l': " ++ text
  | .listingFailed executable exitStatus =>
    "Failed to list running JVMs ('" ++ executable ++ " -l' exit status " ++ exitStatus ++ ")."
  | .classNotFound mainClass => "JVM not found for main class '" ++ mainClass ++ "'."
  | .notRunning pid => "PID " ++ pid ++ " is not a running JVM."
  | .unknown => "Unknown JVM attach failure."

end DebugFind.Attach

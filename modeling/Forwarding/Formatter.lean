import Forwarding.FileTree

/-!
# Formatters

Rust texts are piped through a formatter, a program of its own.  Nothing is assumed of what it does:
a formatter is any function from texts to texts that can fail.

* `FormatFault`: why a text is not formatted;
* `Formatter.unstartable`, `Formatter.missing`: formatters that are never started.
-/

namespace Forwarding

/-- Why a text is not formatted. -/
inductive FormatFault where
  /-- The formatter cannot be started. -/
  | notStarted (reason : String)
  /-- The formatter was started, but does not take the text or gives none back. -/
  | brokenPipe (reason : String)
  /-- The formatter ended without success, after complaints. -/
  | exited (status complaints : String)
  deriving DecidableEq, Repr

/-- What is said about a text that is not formatted. -/
def FormatFault.message : FormatFault → String
  | .notStarted reason => "Failed to start rustfmt: " ++ reason
  | .brokenPipe reason => reason
  | .exited status complaints => "rustfmt exited with " ++ status ++ ": " ++ complaints

/-- What formats Rust texts, or fails to. -/
abbrev Formatter := String → Except FormatFault String

namespace Formatter

/-- A formatter that cannot be started. -/
def unstartable (reason : String) : Formatter := fun _ => .error (.notStarted reason)

/-- A formatter that is not found. -/
def missing : Formatter := unstartable (FileFault.message .notFound)

end Formatter

end Forwarding

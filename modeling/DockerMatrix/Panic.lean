/-
# Panics

Where the program cannot go on and has no error to end with, it panics.  Standard error gets a report
of what went wrong and where in the source, and the report of a second panic, which comes up because
the first one is not allowed to leave the function that it is in.  That one aborts the process.

A report says how to ask for a backtrace; backtraces themselves are no part of it here.
-/

import DockerMatrix.Status.Color

namespace DockerMatrix

/-- What went wrong, and the place in the source where it did. -/
structure Panic where
  message : String
  file : String
  line : Nat
  deriving DecidableEq, Repr

namespace Panic

open Status (sequence)

/-- The directory of the standard library's source. -/
def library : String := "/rustc/b940084d7eb6a299eb4bfeb8e34901bc051e7ac4/library/"

/-- A text in a color, then the terminal's own one. -/
def colored (code text : String) : String :=
  sequence code ++ text ++ sequence "0"

/-- The report of a panic, in red, cyan and purple. -/
def report (p : Panic) : String :=
  colored "31" "The application panicked (crashed)." ++ "\n" ++
    "Message:  " ++ colored "36" p.message ++ "\n" ++
    "Location: " ++ colored "35" p.file ++ ":" ++ colored "35" (toString p.line) ++ "\n\n" ++
    "Backtrace omitted. Run with RUST_BACKTRACE=1 environment variable to display it.\n" ++
    "Run with RUST_BACKTRACE=full to include source snippets.\n"

/-- The panic that comes up where another one is not allowed to leave a function. -/
def notUnwinding : Panic :=
  ⟨"panic in a function that cannot unwind", library ++ "core/src/panicking.rs", 225⟩

/-- What is printed from a panic to the end of the process. -/
def text (p : Panic) : String :=
  p.report ++ notUnwinding.report ++ "thread caused non-unwinding panic. aborting.\n"

end Panic
end DockerMatrix

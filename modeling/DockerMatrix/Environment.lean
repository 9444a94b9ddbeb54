/-
# Environment variables

An environment gives values, which are bytes, to names. A value that is read as text has to be
UTF-8; a variable whose value is not counts as unset there.

A variable is kept as an entry, which is its name, `=` and its value. What is looked up among the
entries may reach into a value: under `A=B` is found what follows `B=` in the value of `A`. No value has
a NUL character: setting a variable to one panics.
-/

import DockerMatrix.Panic
import DockerMatrix.Table
import DockerMatrix.Text.Quoted
import DockerMatrix.Text.Utf8

namespace DockerMatrix

/-- The variables that are set. -/
structure Environment where
  values : Table String Text.Bytes
  deriving DecidableEq, Repr

/-- A name and the text that it is to have. -/
structure Assignment where
  name : String
  value : String
  deriving DecidableEq, Repr

/-- The panic over an assignment whose value no variable can hold. -/
def Assignment.panic (a : Assignment) : Panic where
  message := "failed to set environment variable \x60" ++ Text.quote a.name ++ "\x60 to \x60" ++
    Text.quote a.value ++ "\x60: file name contained an unexpected NUL byte"
  file := Panic.library ++ "std/src/env.rs"
  line := 362

namespace Environment

/-- An environment where nothing is set. -/
def empty : Environment := ⟨[]⟩

/-- The value of a variable. -/
def get? (env : Environment) (name : String) : Option Text.Bytes :=
  env.values.get? name

/-- The value of a variable, if it is text. -/
def text? (env : Environment) (name : String) : Option String :=
  (env.get? name).bind Text.decode?

/-- What follows a key and `=` in the first entry that begins with them. Nothing is found under the
empty key. -/
def entry? (env : Environment) (key : String) : Option Text.Bytes :=
  let start := Text.encode key ++ Text.encode "="
  if key.isEmpty then none
  else env.values.findSome? fun (name, value) =>
    let entry := Text.encode name ++ Text.encode "=" ++ value
    if start.isPrefixOf entry then some (entry.drop start.length) else none

/-- The environment with a variable set. -/
def set (env : Environment) (name : String) (value : Text.Bytes) : Environment :=
  ⟨env.values.put name value⟩

/-- Whether an assignment can be carried out: the variable has a text already, or the value is one
that a variable can hold. -/
def canAdopt (env : Environment) (a : Assignment) : Bool :=
  (env.text? a.name).isSome || !a.value.toList.contains '\x00'

/-- The environment with an assignment carried out, unless the variable has a text already. -/
def adopt (env : Environment) (a : Assignment) : Environment :=
  if (env.text? a.name).isSome then env else env.set a.name (Text.encode a.value)

end Environment
end DockerMatrix

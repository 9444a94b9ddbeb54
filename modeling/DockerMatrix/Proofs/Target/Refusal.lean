/-
# The message about a version that is refused

The message holds the version between quotes.  Whatever the version is, the message stays in one line
and shows all of it, and the operating system and the version are read back from it
(`UnregisteredVersion.message_reads_back`): a version that imitates the rest of the message, or the escapes,
is escaped itself, so it ends neither the quotes nor the line.
-/

import DockerMatrix.Proofs.Text.Quoted
import DockerMatrix.Target

namespace DockerMatrix

/-- What stands behind the version in the message about it. -/
def OperatingSystem.refusal (os : OperatingSystem) : String :=
  " is not registered for " ++ os.name ++
    if os.versions.isEmpty then " (no versions are registered)"
    else " (expected one of " ++ ", ".intercalate os.versions ++ ")"

/-- An operating system is known by what stands behind the version. -/
theorem OperatingSystem.find?_refusal (os : OperatingSystem) :
    (all.find? fun os' => os'.refusal.toList = os.refusal.toList) = some os := by
  cases os <;> decide +kernel

namespace UnregisteredVersion

/-- The refusal quotes the version and then names the operating system. -/
theorem toList_message (e : UnregisteredVersion) :
    e.message.toList = "version ".toList ++ ((Text.quote e.version).toList ++ e.os.refusal.toList) := by
  have hmessage : e.message = "version " ++ Text.quote e.version ++ e.os.refusal := by
    unfold message OperatingSystem.refusal
    rw [← String.append_assoc, ← String.append_assoc]
  rw [hmessage, String.toList_append, String.toList_append, List.append_assoc]

/-- Reads the message about a version: the version stands between quotes behind the first word, and
what comes behind it says which operating system it was refused for. -/
def ofMessage? (message : String) : Option UnregisteredVersion :=
  (Text.unquote (message.toList.drop "version ".length)).bind fun read =>
    (OperatingSystem.all.find? fun os => os.refusal.toList = read.2).map fun os => ⟨os, read.1⟩

/-- **A refusal is read back from its message.** -/
theorem ofMessage?_message (e : UnregisteredVersion) : ofMessage? e.message = some e := by
  have hdrop : e.message.toList.drop "version ".length =
      (Text.quote e.version).toList ++ e.os.refusal.toList := by
    rw [toList_message]
    exact List.drop_left
  rw [ofMessage?, hdrop, Text.unquote_quote, Option.bind_some, OperatingSystem.find?_refusal]
  rfl

/-- **All of a message has a glyph.** -/
theorem isUnprintable_of_mem_message {e : UnregisteredVersion} {c : Char}
    (hc : c ∈ e.message.toList) : Text.isUnprintable c = false := by
  have hfirst : "version ".toList.all (fun c => !Text.isUnprintable c) = true := by decide +kernel
  have hend : e.os.refusal.toList.all (fun c => !Text.isUnprintable c) = true := by
    cases e.os <;> decide +kernel
  rw [List.all_eq_true] at hfirst hend
  rw [toList_message, List.mem_append, List.mem_append] at hc
  rcases hc with hc | hc | hc
  · exact Bool.not_eq_eq_eq_not.1 (hfirst c hc)
  · exact Text.isUnprintable_of_mem_quote hc
  · exact Bool.not_eq_eq_eq_not.1 (hend c hc)

/-- **The message about a version that is refused** is one line without control characters.  The
version stands in it up to the first quote that is not escaped, and is read back from there; so two
refusals with one message are the same.  It is the message of every version that is not registered. -/
theorem message_reads_back (e : UnregisteredVersion) :
    (∀ c ∈ e.message.toList, ¬Text.Disrupts c ∧ Text.isUnprintable c = false) ∧
      (∃ quoted rest, e.message.toList = "version ".toList ++ '"' :: (quoted ++ '"' :: rest) ∧
        Text.splitAtQuote? (quoted ++ '"' :: rest) = some (quoted, rest) ∧
        Text.unquote ('"' :: (quoted ++ ['"'])) = some (e.version, []) ∧
        rest = e.os.refusal.toList) ∧
      ofMessage? e.message = some e ∧
      (∀ e' : UnregisteredVersion, e'.message = e.message → e' = e) ∧
      ∀ hardware, e.version ∉ e.os.versions →
        Target.register e.os e.version hardware = .error e := by
  refine ⟨fun c hc => ?_, ?_, e.ofMessage?_message, fun e' h => ?_, fun hardware h => dif_neg h⟩
  · have hglyph := isUnprintable_of_mem_message hc
    exact ⟨Text.not_disrupts_of_printable hglyph, hglyph⟩
  · refine ⟨Text.escapes e.version, e.os.refusal.toList, ?_, Text.splitAtQuote?_escapes _ _, ?_, rfl⟩
    · rw [toList_message, Text.toList_quote, List.cons_append, List.append_assoc,
        List.singleton_append]
    · rw [← Text.toList_quote, ← List.append_nil (Text.quote _).toList, Text.unquote_quote]
  · have hread := e'.ofMessage?_message
    rw [h, e.ofMessage?_message] at hread
    exact (Option.some.inj hread).symm

/-- A version that imitates the end of the message, and escapes, is shown with its quotes escaped. -/
example : (UnregisteredVersion.mk .macos "1\" is not\u0301 \\u\x7b22\x7d\n").message =
    "version \"1\\\" is not\\u\x7b301\x7d \\\\u\x7b22\x7d\\n\" is not registered for macos (no versions are registered)" := by
  decide +kernel

end UnregisteredVersion
end DockerMatrix

/-
# Environments with the same values

Two environments may list their variables in another order and still give every name the same value
(`SameValues`).  Messages and help are then styled alike, the help shows the same, and the command line
is read alike: of an environment they use nothing but the values of names.

Carrying out the assignments of a file gives the values that one gets by exporting, for each name that
is not set, the first value assigned to it (`sameValues_foldl_adopt`).
-/

import DockerMatrix.Arguments.Read
import DockerMatrix.Proofs.Environment.Variable

namespace DockerMatrix
namespace Environment

variable {env env' : Environment} {found : List Assignment}

/-- Two environments give every name the same value. -/
def SameValues (env env' : Environment) : Prop :=
  ∀ name, env.get? name = env'.get? name

/-- An environment is another one where each name that is not set, but is assigned to, is set to the
first value assigned to it. -/
def IsExtendedBy (env : Environment) (found : List Assignment) (env' : Environment) : Prop :=
  ∀ name, env'.get? name = (env.get? name).or
    ((found.find? fun a => a.name = name).map fun a => Text.encode a.value)

/-- The variables that are set say whether one that is assigned to is set to bytes that are no text. -/
theorem isTextIfAssigned_of_values
    (h : ∀ p ∈ env.values, ∀ a ∈ found, a.name = p.1 → (Text.decode? p.2).isSome) (name : String) :
    env.IsTextIfAssigned found name := by
  rintro ⟨a, ha, rfl⟩ value hv
  exact h _ (Table.mem_of_get? hv) a ha rfl

/-- **Assignments that are carried out are like variables that are exported**, unless they are to
variables that are set to bytes that are no text. -/
theorem sameValues_foldl_adopt (h : ∀ name, env.IsTextIfAssigned found name)
    (hext : env.IsExtendedBy found env') : SameValues (found.foldl adopt env) env' := fun name =>
  (get?_foldl_adopt (h name)).trans (hext name).symm

namespace SameValues

/-- Looking up a value gives the same. -/
theorem get?_eq (h : SameValues env env') : env.get? = env'.get? := funext h

/-- Looking up a text gives the same. -/
theorem text?_eq (h : SameValues env env') : env.text? = env'.text? := by
  funext name
  rw [text?, text?, h name]

/-- Switches are on or off alike. -/
theorem isOn_eq (h : SameValues env env') : env.isOn = env'.isOn := by
  funext name
  rw [isOn, isOn, h.text?_eq]

/-- Messages are colored alike. -/
theorem showsColor_eq (h : SameValues env env') : env.showsColor = env'.showsColor := by
  simp only [showsColor, forcesColor, allowsColor, hasColorTerminal, isBuildService, h.text?_eq,
    h.isOn_eq]

/-- Help and usage errors are styled alike. -/
theorem showsStyles_eq (h : SameValues env env') : env.showsStyles = env'.showsStyles := by
  simp only [showsStyles, isFilled, h.get?_eq]

/-- The help is the same. -/
theorem help_eq (h : SameValues env env') : Arguments.help env = Arguments.help env' := by
  have hremarks : Arguments.Item.remarks env = Arguments.Item.remarks env' := by
    funext item
    cases item with
    | setting s => simp only [Arguments.Item.remarks, h.get?_eq]
    | switch w => rfl
  have hshort : Arguments.shortEntry env = Arguments.shortEntry env' := by
    funext item
    rw [Arguments.shortEntry, Arguments.shortEntry, hremarks]
  have hlong : Arguments.longEntry env = Arguments.longEntry env' := by
    funext item
    rw [Arguments.longEntry, Arguments.longEntry, hremarks]
  unfold Arguments.help
  rw [hshort, hlong]

/-- **The text about a stop is the same**, also where it is the help, which shows variables. -/
theorem printedText_eq (h : SameValues env env') (stop : Arguments.Stop) :
    stop.printedText env env.showsStyles = stop.printedText env' env'.showsStyles := by
  have hstyled : stop.styledText env = stop.styledText env' := by
    cases stop with
    | help extent => exact congrFun h.help_eq extent
    | nothingGiven => exact congrFun h.help_eq .short
    | _ => rfl
  rw [Arguments.Stop.printedText, Arguments.Stop.printedText, hstyled, h.showsStyles_eq]

/-- **The command line is read alike.** -/
theorem read_eq (h : SameValues env env') (kindOf : Path → PathKind)
    (arguments : List Text.Bytes) :
    Arguments.read kindOf env arguments = Arguments.read kindOf env' arguments := by
  simp only [Arguments.read, Arguments.Gathered.fallBack, h.get?_eq]

end SameValues
end Environment
end DockerMatrix

/-
# Whether messages are colored

The environment decides whether messages are painted; the streams are taken to be no terminals.

| variable | meaning |
| --- | --- |
| `FORCE_COLOR` | color, unless it is `false` or a number that is zero |
| `CLICOLOR_FORCE` | color, unless it is `0`; it counts if `FORCE_COLOR` is not set |
| `IGNORE_IS_TERMINAL` | unless it is `0`, the streams are taken to be terminals |
| `NO_COLOR` | no color on a terminal, unless it is `0` |
| `TERM` | no color on a terminal that is `dumb`; color on any other |
| `COLORTERM` | color on a terminal |
| `TERM_PROGRAM` | color on a terminal that is `iTerm.app` or `Apple_Terminal` |
| `CLICOLOR` | color on a terminal, unless it is `0` |
| variables of build services | color on a terminal |

A variable whose value is not text counts as not set.

Help and usage errors go by fewer variables, and any value that is not empty counts: they are shown
with styles if `CLICOLOR_FORCE` is set and `NO_COLOR` is not.
-/

import DockerMatrix.Environment
import DockerMatrix.Text.Numeral

namespace DockerMatrix
namespace Environment

/-- Whether a variable is set to a text other than `0`. -/
def isOn (env : Environment) (name : String) : Bool :=
  match env.text? name with
  | none => false
  | some value => value ≠ "0"

/-- Whether color is asked for in any case. -/
def forcesColor (env : Environment) : Bool :=
  match env.text? "FORCE_COLOR" with
  | some value => value ≠ "false" && Text.number? value.toList ≠ some 0
  | none => env.isOn "CLICOLOR_FORCE"

/-- The variables that are set where a build service runs a program. -/
def serviceVariables : List String :=
  ["CI_NAME", "GITHUB_ACTION", "GITLAB_CI", "NETLIFY", "TRAVIS", "CODEBUILD_SRC_DIR",
   "BUILDER_OUTPUT", "GITLAB_DEPLOYMENT", "NOW_GITHUB_DEPLOYMENT", "NOW_BUILDER",
   "BITBUCKET_DEPLOYMENT", "GERRIT_PROJECT", "SYSTEM_TEAMFOUNDATIONCOLLECTIONURI", "BITRISE_IO",
   "BUDDY_WORKSPACE_ID", "BUILDKITE", "CIRRUS_CI", "APPVEYOR", "CIRCLECI", "SEMAPHORE", "DRONE",
   "DSARI", "TDDIUM", "STRIDER", "TASKCLUSTER_ROOT_URL", "JENKINS_URL", "bamboo.buildKey",
   "GO_PIPELINE_NAME", "HUDSON_URL", "WERCKER", "MAGNUM", "NEVERCODE", "RENDER", "SAIL_CI",
   "SHIPPABLE"]

/-- The end of the path that one build service gives in a variable of its own. -/
def servicePath : String := "//heroku/node/bin/node"

/-- Whether a build service runs the program. -/
def isBuildService (env : Environment) : Bool :=
  ["true", "1", "woodpecker"].contains ((env.text? "CI").getD "") ||
    servicePath.toList.isSuffixOf ((env.text? "NODE").getD "").toList ||
    serviceVariables.any fun name => (env.text? name).isSome

/-- Whether a terminal in this environment shows colors. -/
def hasColorTerminal (env : Environment) : Bool :=
  (env.text? "COLORTERM").isSome || (env.text? "TERM").isSome ||
    ["iTerm.app", "Apple_Terminal"].contains ((env.text? "TERM_PROGRAM").getD "") ||
    env.isOn "CLICOLOR" || env.isBuildService

/-- Whether color is shown where the terminal rules apply. -/
def allowsColor (env : Environment) : Bool :=
  env.isOn "IGNORE_IS_TERMINAL" && !env.isOn "NO_COLOR" && env.text? "TERM" ≠ some "dumb" &&
    env.hasColorTerminal

/-- Whether messages are colored. -/
def showsColor (env : Environment) : Bool :=
  env.forcesColor || env.allowsColor

/-- Whether a variable is set to a value that is not empty, be it text or not. -/
def isFilled (env : Environment) (name : String) : Bool :=
  !((env.get? name).getD []).isEmpty

/-- Whether help and usage errors are shown with styles. -/
def showsStyles (env : Environment) : Bool :=
  env.isFilled "CLICOLOR_FORCE" && !env.isFilled "NO_COLOR"

end Environment
end DockerMatrix

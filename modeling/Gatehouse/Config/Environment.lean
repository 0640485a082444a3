import Gatehouse.Config.DotEnv
import Gatehouse.Config.Source

/-!
# Settings from the environment

Every variable is a setting under its name in lower case, and its type is guessed from its
text (`Setting.guess`). Where a text is wanted back, a guess that was right for a number is
written as that number, so leading zeros, signs and exponents do not survive.
-/

namespace Gatehouse.Variables

/-- What an error calls the origin of these settings. -/
def origin : String := "the environment"

/-- A source with the variables laid over it. -/
def laidOver (environment : Variables) (source : Source) : Source :=
  environment.foldl
    (fun s v => s.putAt (Path.ofString (String.ofList (Notation.lower v.1.toList)))
      ⟨Setting.guess v.2, some origin⟩)
    source

end Gatehouse.Variables

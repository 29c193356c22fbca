import ScriptRun.Text.Basic

/-!
# Global flags

Some flags belong to the program and not to one of its commands, and may stand anywhere on the
command line. They are moved to the front, each together with its value; all other words keep their
order. A configuration flag that has no word after it stays where it is.
-/

namespace ScriptRun.CommandLine

/-- The flag whose value is the next word. -/
def configFlag : Text := "--config".toList

def isGlobalFlag (word : Text) : Bool :=
  word = "--json".toList || word = "-v".toList || word = "--verbose".toList ||
    Text.startsWith "--config=".toList word

/-- The global flags with their values, and the other words. -/
def divided : List Text → List Text × List Text
  | [] => ([], [])
  | word :: rest =>
    if isGlobalFlag word then
      let (flags, others) := divided rest
      (word :: flags, others)
    else if word = configFlag then
      match rest with
      | [] => ([], [word])
      | value :: rest =>
        let (flags, others) := divided rest
        (word :: value :: flags, others)
    else
      let (flags, others) := divided rest
      (flags, word :: others)

def withFlagsFirst (words : List Text) : List Text :=
  let (flags, others) := divided words
  flags ++ others

end ScriptRun.CommandLine

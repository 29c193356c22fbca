import ScriptRun.Text.Quoted
import ScriptRun.Text.Utf8

/-!
# Why a file operation fails

The causes that a file system reports, with their numbers, and the two that lie in the content: a
file missing from memory, and bytes that are no text.
-/

namespace ScriptRun.Files

inductive Cause where
  | notFound
  | busy
  | alreadyExists
  | notDirectory
  | isDirectory
  | invalid
  | nameTooLong
  | notEmpty
  /-- The path holds a NUL character, which no path may. -/
  | embeddedNull
  deriving DecidableEq, Repr

def Cause.number : Cause → Nat
  | .notFound => 2
  | .busy => 16
  | .alreadyExists => 17
  | .notDirectory => 20
  | .isDirectory => 21
  | .invalid | .embeddedNull => 22
  | .nameTooLong => 36
  | .notEmpty => 39

def Cause.reason : Cause → Text
  | .notFound => "No such file or directory".toList
  | .busy => "Device or resource busy".toList
  | .alreadyExists => "File exists".toList
  | .notDirectory => "Not a directory".toList
  | .isDirectory => "Is a directory".toList
  | .invalid => "Invalid argument".toList
  | .nameTooLong => "File name too long".toList
  | .notEmpty => "Directory not empty".toList
  | .embeddedNull => "embedded null byte".toList

inductive Fault where
  /-- The file system refused the operation on one path, or from one path to another. -/
  | system (cause : Cause) (path : Text) (target : Option Text)
  /-- A file in memory is not there. -/
  | missing (path : Text)
  /-- The content of a file is no text. -/
  | undecodable (misread : Text.Utf8.Misread)
  deriving DecidableEq, Repr

def Fault.message : Fault → Text
  | .system .embeddedNull _ _ => Cause.embeddedNull.reason
  | .system cause path target =>
    "[Errno ".toList ++ Text.ofNat cause.number ++ "] ".toList ++ cause.reason ++ ": ".toList ++
      Text.quoted path ++
      match target with
      | some target => " -> ".toList ++ Text.quoted target
      | none => []
  | .missing path => "No such file: ".toList ++ path
  | .undecodable misread => misread.message

/-- Whether the operation was tried and refused; a path that cannot even be passed on is no refusal,
nor is content that is no text. -/
def Fault.isRefusal : Fault → Bool
  | .system .embeddedNull _ _ | .undecodable _ => false
  | .system .. | .missing _ => true

end ScriptRun.Files

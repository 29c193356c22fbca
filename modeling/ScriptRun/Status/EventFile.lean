import ScriptRun.Files.Tree
import ScriptRun.Json.Printer
import ScriptRun.Json.Reader
import ScriptRun.Status.Event
import ScriptRun.Time.Moment

/-!
# Events in a file

An event file gets one line per record, each the written form of an object with a sequence number,
so that other programs can follow a run. A writer that opens an existing file goes on from the
number in its last line, as far as the last 4096 bytes show that line. The number is taken up before
the record is written, and stays taken if that fails.
-/

namespace ScriptRun.Status

open Text

inductive EventFile.Fault where
  /-- The file system refused. -/
  | file (fault : Files.Fault)
  /-- The last line gives an infinite sequence number. -/
  | infiniteSequence
  /-- A record holds an integer with too many digits to be written. -/
  | unwritable
  deriving DecidableEq, Repr

def EventFile.Fault.message : EventFile.Fault → Text
  | .file fault => fault.message
  | .infiniteSequence => "cannot convert float infinity to integer".toList
  | .unwritable => Decimal.unwritableMessage

structure EventFile where
  path : Text
  /-- Whether lines of output are recorded. -/
  keepsLogLines : Bool := false
  sequence : Int := 0
  session : Option Text := none
  deriving DecidableEq, Repr

namespace EventFile

/-- How many bytes at the end of a file are searched for its last line. -/
def tailSize : Nat := 4096

/-- The lines of bytes, ended by a line feed, a carriage return, or both together. -/
def byteLines : List UInt8 → List (List UInt8)
  | [] => []
  | 13 :: 10 :: rest => [] :: byteLines rest
  | b :: rest =>
    if b = 10 ∨ b = 13 then [] :: byteLines rest
    else match byteLines rest with
      | [] => [[b]]
      | line :: more => (b :: line) :: more

/-- The integer towards zero from a float; none for not-a-number. -/
def truncate (x : Float) : Except Fault (Option Int) :=
  match Decimal.Parts.ofFloat x with
  | .nan => .ok none
  | .infinite _ => .error .infiniteSequence
  | .finite negative mantissa exponent =>
    let (num, den) := Decimal.scaleTwo mantissa exponent
    let whole : Int := (num / den : Nat)
    .ok (some (if negative then -whole else whole))

/-- The sequence number that a value gives; zero if it gives none. -/
def sequenceOf : Json → Except Fault Int
  | .int n => .ok n
  | .bool b => .ok (if b then 1 else 0)
  | .float x => do return (← truncate x).getD 0
  | .str t =>
    match Decimal.readInt t with
    | .ok n => .ok n
    | .error _ => .ok 0
  | .null | .arr _ | .obj _ => .ok 0

/-- The end of a file, as far as it is searched. -/
def ending (content : List UInt8) : List UInt8 := (content.reverse.take tailSize).reverse

/-- The sequence number in the last line of a file; zero if that is no such record. -/
def lastSequence (content : List UInt8) : Except Fault Int :=
  match (byteLines (ending content)).getLast? with
  | none => .ok 0
  | some line =>
    match Json.read? (Utf8.decode line) with
    | some value =>
      match value.get? "sequence".toList with
      | some number => sequenceOf number
      | none => .ok 0
    | none => .ok 0

mutual

/-- Whether every integer in a value has few enough digits to be written. -/
def isWritable : Json → Bool
  | .int n => Decimal.isWritable n
  | .arr items => areWritable items
  | .obj fields => haveWritable fields
  | _ => true

def areWritable : List Json → Bool
  | [] => true
  | item :: rest => isWritable item && areWritable rest

def haveWritable : List (Text × Json) → Bool
  | [] => true
  | field :: rest => isWritable field.2 && haveWritable rest

end

/-- A record as data. Data that count as absent are written as an empty object. -/
def payload (f : EventFile) (now : Time.Moment) (type level : Text) (data : Json) : Json :=
  .record [("schema_version", .int 1), ("sequence", .int f.sequence),
    ("timestamp", .str now.isoText), ("type", .str type), ("level", .str level),
    ("session_id", .ofText? f.session), ("data", if data.truthy then data else .obj [])]

def recordLine (payload : Json) : Text := payload.text .record ++ ['\n']

def directoryOf (path : Text) : Text :=
  let above := Files.Path.parent path
  if above.isEmpty then ['.'] else above

/-- A writer that goes on where the file ends, if the directory that holds the file was made. -/
def resume (path : Text) (keepsLogLines : Bool) :
    Except Files.Fault Unit × Files.Tree → Except Fault EventFile × Files.Tree
  | (.error fault, t) => (.error (.file fault), t)
  | (.ok (), t) =>
    match t.bytes path with
    | .error _ => (.ok { path, keepsLogLines }, t)
    | .ok content =>
      match lastSequence content with
      | .ok sequence => (.ok { path, keepsLogLines, sequence }, t)
      | .error fault => (.error fault, t)

/-- Opens an event file, making the directory above it. -/
def openAt (path : Text) (keepsLogLines : Bool) (t : Files.Tree) :
    Except Fault EventFile × Files.Tree :=
  resume path keepsLogLines ((Files.Tree.ensureDirectory (directoryOf path)).outcome t)

/-- Writes a record; the answer is its sequence number. -/
def emit (f : EventFile) (now : Time.Moment) (type level : Text) (data : Json) (t : Files.Tree) :
    Except Fault Int × EventFile × Files.Tree :=
  let f := { f with sequence := f.sequence + 1 }
  let payload := f.payload now type level data
  if isWritable payload then
    let line := Utf8.encode (recordLine payload)
    match t.store f.path (· ++ line) with
    | .ok t => (.ok f.sequence, f, t)
    | .error cause => (.error (.file (.system cause f.path none)), f, t)
  else (.error .unwritable, f, t)

def level : Event → Text
  | .spawnFailed _ | .readinessTimedOut .. => "error".toList
  | .runComplete code => (if code = 0 then "info" else "warning").toList
  | _ => "info".toList

/-- Records an event, unless it is a line of output and those are not recorded. -/
def observe (f : EventFile) (now : Time.Moment) (event : Event) (t : Files.Tree) :
    Except Fault Unit × EventFile × Files.Tree :=
  match event, f.keepsLogLines with
  | .logLine .., false => (.ok (), f, t)
  | _, _ =>
    match f.emit now event.type (level event) event.data t with
    | (.ok _, f, t) => (.ok (), f, t)
    | (.error fault, f, t) => (.error fault, f, t)

end EventFile

end ScriptRun.Status

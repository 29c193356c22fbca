import ScriptRun.Decimal.Reading
import ScriptRun.Text.Search

/-!
# The speed of a mocked location

A script that drives a mocked location names it with a `mockLocation:` or `gps:` key, in any case,
and may give a speed. The speed is the first run of digits and points that follows a `speed:` key;
60 stands for a missing speed and for one that is no number.
-/

namespace ScriptRun.Script

open Text

def defaultSpeed : Float := 60.0

/-- Whether the text begins with a key that turns on a mocked location. -/
def locationKey? (t : Text) : Option Unit :=
  let key (name : String) : Bool :=
    match dropLeadAnyCase? name.toList t with
    | some (':' :: _) => true
    | _ => false
  if key "mockLocation" || key "gps" then some () else none

/-- The digits and points after a speed key at the beginning of the text. -/
def speedText? (t : Text) : Option Text :=
  match dropLeadAnyCase? "speed".toList t with
  | some (':' :: rest) =>
    let value := (trimStart rest).takeWhile fun c => isDigit c || c = '.'
    if value.isEmpty then none else some value
  | _ => none

/-- The speed in km/h at which a script's mocked location starts, if it has one. -/
def mockSpeed? (t : Text) : Option Float := do
  leftmost? locationKey? t
  match leftmost? speedText? t with
  | some value => some ((Decimal.readFloat? value).getD defaultSpeed)
  | none => some defaultSpeed

end ScriptRun.Script

import ScriptRun.Text.CharClass

/-!
# Grammars of command lines

A grammar lists switches, and says what stands besides them: nothing, one operand, or a command that
has a grammar of its own. Reading a command line changes a value step by step, one step for each
switch, operand and command.

A long switch may be cut short as long as no other begins like that, and its value may be attached by
an equals sign. Switches of one letter may be joined, and a value may follow the letter directly. A
word that looks like a negative number, or that begins with a dash and holds a space, is an operand.
Two dashes end the switches. The first help switch, or the first error, ends the reading.
-/

namespace ScriptRun.CommandLine

/-- Why a command line is not read to its end. -/
inductive Halt where
  | help
  | misuse
  deriving DecidableEq, Repr

/-- What a switch does. -/
inductive Effect (ρ : Type) where
  | help
  | flag (change : ρ → ρ)
  /-- The switch takes a value, which it may refuse. -/
  | value (change : Text → ρ → Option ρ)

structure Switch (ρ : Type) where
  names : List Text
  effect : Effect ρ
  required : Bool := false

def Switch.takesValue {ρ : Type} (s : Switch ρ) : Bool :=
  match s.effect with
  | .value _ => true
  | .help | .flag _ => false

mutual

/-- What a command line may say. -/
inductive Grammar (ρ : Type) where
  /-- Switches, and nothing else. -/
  | bare (switches : List (Switch ρ))
  | operand (switches : List (Switch ρ)) (change : Text → ρ → Option ρ)
  | command (switches : List (Switch ρ)) (commands : Commands ρ)

/-- Commands with their names, what they do by themselves, and their grammars. -/
inductive Commands (ρ : Type) where
  | none
  | more (name : Text) (change : ρ → ρ) (grammar : Grammar ρ) (rest : Commands ρ)

end

/-- A value given together with a switch. -/
structure Attached where
  /-- Whether it stands after an equals sign. -/
  byEquals : Bool
  text : Text
  deriving DecidableEq, Repr

/-- A word of a command line by its role. -/
inductive Token (ρ : Type) where
  /-- The two dashes that end the switches. -/
  | dashes
  | operand (word : Text)
  /-- A word that looks like a switch: the switch it stands for, if there is one, the name by which
  it is called, and the value attached to it. -/
  | switch (word : Text) (found : Option (Switch ρ)) (name : Text) (attached : Option Attached)

namespace Token

variable {ρ : Type}

def word : Token ρ → Text
  | .dashes => ['-', '-']
  | .operand word => word
  | .switch word .. => word

end Token

section Tokens

variable {ρ : Type}

def switch? (switches : List (Switch ρ)) (name : Text) : Option (Switch ρ) :=
  switches.find? fun s => s.names.contains name

def named (switches : List (Switch ρ)) : List (Text × Switch ρ) :=
  switches.flatMap fun s => s.names.map fun name => (name, s)

def splitEquals (word : Text) : Text × Option Text :=
  let name := word.takeWhile (· ≠ '=')
  match word.drop name.length with
  | [] => (name, none)
  | _ :: value => (name, some value)

/-- Whether a word is a negative number in plain notation. A line feed may end it. -/
def isNegativeNumber (word : Text) : Bool :=
  let word := if word.getLast? = some '\n' then word.dropLast else word
  match word with
  | '-' :: rest =>
    let whole := rest.takeWhile Text.isDigit
    match rest.drop whole.length with
    | [] => !whole.isEmpty
    | '.' :: fraction => !fraction.isEmpty && fraction.all Text.isDigit
    | _ => false
  | _ => false

/-- The switches that a word may stand for: those whose long names begin like it, or the one of its
first letter with the rest attached. -/
def candidates (switches : List (Switch ρ)) (word : Text) : List (Token ρ) :=
  match word with
  | '-' :: '-' :: _ =>
    let (start, value) := splitEquals word
    let matching := (named switches).filter fun n => Text.startsWith start n.1
    matching.map fun n => .switch word (some n.2) n.1 (value.map (⟨true, ·⟩))
  | '-' :: letter :: rest =>
    (named switches).filterMap fun n =>
      if n.1 = ['-', letter] then some (.switch word (some n.2) n.1 (some ⟨false, rest⟩))
      else if Text.startsWith word n.1 then some (.switch word (some n.2) n.1 none)
      else none
  | _ => []

/-- The role of a word before the switches have ended. -/
def tokenOf (switches : List (Switch ρ)) (word : Text) : Except Halt (Token ρ) :=
  if word.head? ≠ some '-' ∨ word = ['-'] then .ok (.operand word)
  else
    match switch? switches word with
    | some s => .ok (.switch word (some s) word none)
    | none =>
      let (name, value) := splitEquals word
      match switch? switches name, value with
      | some s, some value => .ok (.switch word (some s) name (some ⟨true, value⟩))
      | _, _ =>
        match candidates switches word with
        | [token] => .ok token
        | _ :: _ :: _ => .error .misuse
        | [] =>
          if isNegativeNumber word || word.contains ' ' then .ok (.operand word)
          else .ok (.switch word none word none)

/-- The roles of words. After two dashes there are only operands. -/
def tokens (switches : List (Switch ρ)) : List Text → Except Halt (List (Token ρ))
  | [] => .ok []
  | word :: rest =>
    if word = ['-', '-'] then .ok (.dashes :: rest.map .operand)
    else do
      let token ← tokenOf switches word
      return token :: (← tokens switches rest)

end Tokens

/-! ## Switches -/

section Switches

variable {ρ : Type}

structure Call (ρ : Type) where
  switch : Switch ρ
  value : Text := []

/-- What a word with joined switches calls. -/
structure Calls (ρ : Type) where
  calls : List (Call ρ)
  /-- The last switch waits for a value in the next word. -/
  waits : Option (Switch ρ) := none
  /-- Whether letters were left that are no switches. -/
  leftover : Bool := false

/-- The calls of a switch with text attached to it: its value, or more switches. -/
def attachedCalls (switches : List (Switch ρ)) (s : Switch ρ) (name : Text) :
    Bool → Text → Except Halt (Calls ρ)
  | byEquals, text =>
    if s.takesValue then .ok { calls := [⟨s, text⟩] }
    else if Text.startsWith ['-', '-'] name then .error .misuse
    else
      match text with
      | [] => .error .misuse
      | letter :: rest =>
        if byEquals ∨ letter = '-' then .error .misuse
        else
          match switch? switches ['-', letter] with
          | none => .ok { calls := [⟨s, []⟩], leftover := true }
          | some next =>
            match rest with
            | [] =>
              .ok (if next.takesValue then { calls := [⟨s, []⟩], waits := some next }
                else { calls := [⟨s, []⟩, ⟨next, []⟩] })
            | '=' :: value => do
              let more ← attachedCalls switches next ['-', letter] true value
              return { more with calls := ⟨s, []⟩ :: more.calls }
            | more => do
              let more ← attachedCalls switches next ['-', letter] false more
              return { more with calls := ⟨s, []⟩ :: more.calls }
termination_by _ text => text.length

def callsOf (switches : List (Switch ρ)) (s : Switch ρ) (name : Text) :
    Option Attached → Except Halt (Calls ρ)
  | some attached => attachedCalls switches s name attached.byEquals attached.text
  | none =>
    .ok (if s.takesValue then { calls := [], waits := some s } else { calls := [⟨s, []⟩] })

def perform : List (Call ρ) → ρ → Except Halt ρ
  | [], r => .ok r
  | c :: rest, r =>
    match c.switch.effect with
    | .help => .error .help
    | .flag change => perform rest (change r)
    | .value change =>
      match change c.value r with
      | some r => perform rest r
      | none => .error .misuse

end Switches

/-! ## Reading -/

section Reading

variable {ρ : Type}

structure Progress (ρ : Type) where
  value : ρ
  /-- The names of the switches that were called. -/
  seen : List Text := []
  /-- Whether a word was left that nothing accounts for. -/
  leftover : Bool := false

/-- Whether every required switch was called. -/
def Progress.isComplete (p : Progress ρ) (switches : List (Switch ρ)) : Bool :=
  switches.all fun s => !s.required || s.names.any p.seen.contains

/-- What stands besides the switches. -/
inductive Expected (ρ : Type) where
  | nothing
  | operand (change : Text → ρ → Option ρ)
  | command

/-- What the words of one grammar come to: the end, or a command with all words after it. -/
inductive Reached (ρ : Type) where
  | finished (p : Progress ρ) (expected : Expected ρ)
  | command (p : Progress ρ) (name : Text) (words : List Text)

def takeOperand (change : Text → ρ → Option ρ) (word : Text) (p : Progress ρ) :
    Except Halt (Progress ρ) :=
  match change word p.value with
  | some value => .ok { p with value }
  | none => .error .misuse

/-- Does what a word with switches says; `waiting` is the value for a switch that waits for one. -/
def takeCalls (calls : Calls ρ) (waiting : Text) (p : Progress ρ) : Except Halt (Progress ρ) := do
  let all := calls.calls ++ calls.waits.toList.map fun s => ⟨s, waiting⟩
  let value ← perform all p.value
  return { value
           seen := p.seen ++ all.flatMap fun c => c.switch.names
           leftover := p.leftover || calls.leftover }

def readTokens (switches : List (Switch ρ)) :
    Expected ρ → Progress ρ → List (Token ρ) → Except Halt (Reached ρ)
  | expected, p, [] => .ok (.finished p expected)
  | expected, p, .switch _ none _ _ :: rest =>
    readTokens switches expected { p with leftover := true } rest
  | expected, p, .switch _ (some s) name attached :: rest => do
    let calls ← callsOf switches s name attached
    if calls.waits.isSome then
      match rest with
      | .operand word :: rest => do
        let p ← takeCalls calls word p
        readTokens switches expected p rest
      | _ => .error .misuse
    else do
      let p ← takeCalls calls [] p
      readTokens switches expected p rest
  | .operand change, p, .dashes :: .operand word :: rest
  | .operand change, p, .operand word :: .dashes :: rest => do
    let p ← takeOperand change word p
    readTokens switches .nothing p rest
  | .operand change, p, .operand word :: rest => do
    let p ← takeOperand change word p
    readTokens switches .nothing p rest
  | .command, p, .operand word :: rest => .ok (.command p word (rest.map Token.word))
  | .command, _, .dashes :: .operand _ :: _ => .error .misuse
  | expected, p, .dashes :: rest | expected, p, .operand _ :: rest =>
    readTokens switches expected { p with leftover := true } rest

/-- The end of reading by a grammar without commands. -/
def finished (switches : List (Switch ρ)) : Reached ρ → Except Halt (Progress ρ)
  | .finished p .nothing => if p.isComplete switches then .ok p else .error .misuse
  | _ => .error .misuse

mutual

def Grammar.read : Grammar ρ → List Text → Progress ρ → Except Halt (Progress ρ)
  | .bare switches, words, p => do
    let found ← tokens switches words
    finished switches (← readTokens switches .nothing p found)
  | .operand switches change, words, p => do
    let found ← tokens switches words
    finished switches (← readTokens switches (.operand change) p found)
  | .command switches commands, words, p => do
    let found ← tokens switches words
    match ← readTokens switches .command p found with
    | .finished .. => .error .misuse
    | .command p name words =>
      let p ← commands.read name words p
      if p.isComplete switches then return p else .error .misuse

def Commands.read : Commands ρ → Text → List Text → Progress ρ → Except Halt (Progress ρ)
  | .none, _, _, _ => .error .misuse
  | .more name change grammar rest, chosen, words, p =>
    if name = chosen then grammar.read words { p with value := change p.value }
    else rest.read chosen words p

end

/-- What a command line says: the initial value changed by its words, all of which are accounted
for. -/
def Grammar.parse (g : Grammar ρ) (words : List Text) (initial : ρ) : Except Halt ρ := do
  let p ← g.read words { value := initial }
  if p.leftover then .error .misuse else return p.value

end Reading

end ScriptRun.CommandLine

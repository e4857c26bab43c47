import BookSearch.Files.System

/-!
Command lines: options for every command, one command, and its operand and own options in any order.
An option is given at most once before the command and once after it, where the later one counts.
-/
namespace BookSearch

inductive Command where
  | search (query : String) (page : UInt32) (size : Option UInt32)
  | browse (keyword : String) (page : UInt32) (size : Option UInt32)
  | book (id : String)
  | replay (file : Path)
  deriving DecidableEq, Repr

structure Invocation where
  catalogue : Option Path
  configDirectory : Option Path
  command : Command
  deriving DecidableEq, Repr

inductive Halt where
  | usage
  | help
  | version
  deriving DecidableEq, Repr

namespace CommandLine

inductive CommandName where
  | search
  | browse
  | book
  | replay
  deriving DecidableEq, Repr

def CommandName.ofText? (s : String) : Option CommandName :=
  if s = "search" then some .search
  else if s = "browse" then some .browse
  else if s = "book" then some .book
  else if s = "replay" then some .replay
  else none

def CommandName.hasPages : CommandName → Bool
  | search | browse => true
  | book | replay => false

inductive Setting where
  | catalogue
  | configDirectory
  | page
  | size
  deriving DecidableEq, Repr

/-- What was given on one side of the command. -/
structure Given where
  catalogue : Option String := none
  configDirectory : Option String := none
  page : Option UInt32 := none
  size : Option UInt32 := none
  verbose : Bool := false
  deriving DecidableEq, Repr

def digitsWord? (digits : List Char) : Option UInt32 :=
  if digits.isEmpty || !digits.all Char.isDigit then none
  else
    let n := Nat.ofDigitChars 10 digits 0
    if n < UInt32.size then some (UInt32.ofNat n) else none

/-- Decimal digits with an optional sign; behind a minus only zero is no less than zero. -/
def word? (s : String) : Option UInt32 :=
  match s.toList with
  | '+' :: digits => digitsWord? digits
  | '-' :: digits => (digitsWord? digits).filter (· = 0)
  | digits => digitsWord? digits

namespace Given

def set? (given : Given) (setting : Setting) (value : String) : Option Given :=
  match setting with
  | .catalogue =>
    if given.catalogue.isSome || value.isEmpty then none else some { given with catalogue := value }
  | .configDirectory =>
    if given.configDirectory.isSome || value.isEmpty then none
    else some { given with configDirectory := value }
  | .page =>
    if given.page.isSome then none else (word? value).map fun n => { given with page := n }
  | .size =>
    if given.size.isSome then none else (word? value).map fun n => { given with size := n }

def setVerbose? (given : Given) : Option Given :=
  if given.verbose then none else some { given with verbose := true }

end Given

structure State where
  before : Given := {}
  command : Option CommandName := none
  after : Given := {}
  operand : Option String := none
  /-- The setting whose value has to come next. -/
  pending : Option Setting := none
  /-- After a lone double hyphen everything is an operand. -/
  onlyOperands : Bool := false
  deriving DecidableEq, Repr

namespace State

def given (state : State) : Given := if state.command.isNone then state.before else state.after

def withGiven (state : State) (given : Given) : State :=
  if state.command.isNone then { state with before := given } else { state with after := given }

def orUsage (state : State) (given? : Option Given) : Except Halt State :=
  match given? with
  | none => .error .usage
  | some given => .ok (state.withGiven given)

/-- The page options belong to the commands that answer with pages. -/
def setting? (state : State) (name : List Char) : Option Setting :=
  if name = "catalog".toList then some .catalogue
  else if name = "config-dir".toList then some .configDirectory
  else if (state.command.map CommandName.hasPages).getD false then
    if name = "page".toList then some .page
    else if name = "size".toList then some .size
    else none
  else none

def long (state : State) (s : List Char) : Except Halt State :=
  let name := s.takeWhile (· ≠ '=')
  let attached := s.drop (name.length + 1)
  let bare := name.length = s.length
  match state.setting? name with
  | some setting =>
    if bare then .ok { state with pending := some setting }
    else state.orUsage (state.given.set? setting (String.ofList attached))
  | none =>
    if !bare then .error .usage
    else if name = "verbose".toList then state.orUsage state.given.setVerbose?
    else if name = "help".toList then .error .help
    else if name = "version".toList && state.command.isNone then .error .version
    else .error .usage

/-- The letters behind one hyphen, from left to right. -/
def short (state : State) : List Char → Except Halt State
  | [] => .ok state
  | c :: rest =>
    if c = 'v' then
      match state.given.setVerbose? with
      | none => .error .usage
      | some given => short (state.withGiven given) rest
    else if c = 'h' then .error .help
    else if c = 'V' && state.command.isNone then .error .version
    else .error .usage

def operate (state : State) (s : String) : Except Halt State :=
  match state.command with
  | none =>
    if state.onlyOperands then .error .usage
    else
      match CommandName.ofText? s with
      | none => .error .usage
      | some name => .ok { state with command := some name }
  | some name =>
    if state.operand.isSome || (name = .replay && s.isEmpty) then .error .usage
    else .ok { state with operand := some s }

def step (state : State) (s : String) : Except Halt State :=
  if state.onlyOperands then state.operate s
  else
    match s.toList, state.pending with
    | '-' :: _ :: _, some _ => .error .usage
    | '-' :: '-' :: [], none => .ok { state with onlyOperands := true }
    | '-' :: '-' :: name, none => state.long name
    | '-' :: c :: rest, none => state.short (c :: rest)
    | _, some setting =>
      ({ state with pending := none } : State).orUsage (state.given.set? setting s)
    | _, none => state.operate s

def paths (state : State) : Option Path × Option Path :=
  ((state.after.catalogue.or state.before.catalogue).map Path.mk,
    (state.after.configDirectory.or state.before.configDirectory).map Path.mk)

def finish (state : State) : Except Halt Invocation :=
  match state.pending, state.command, state.operand with
  | none, some name, some operand =>
    let (catalogue, configDirectory) := state.paths
    let page := state.after.page.getD 1
    let size := state.after.size
    .ok
      { catalogue
        configDirectory
        command :=
          match name with
          | .search => .search operand page size
          | .browse => .browse operand page size
          | .book => .book operand
          | .replay => .replay ⟨operand⟩ }
  | _, _, _ => .error .usage

/-- The word `help` in the place of a command is followed by at most one command. -/
def helpAbout : List String → Halt
  | [] => .help
  | [name] => if name = "help" || (CommandName.ofText? name).isSome then .help else .usage
  | _ => .usage

def readAll (state : State) : List String → Except Halt Invocation
  | [] => state.finish
  | s :: rest =>
    if s = "help" && state.command.isNone && state.pending.isNone && !state.onlyOperands then
      .error (helpAbout rest)
    else
      match state.step s with
      | .error halt => .error halt
      | .ok next => readAll next rest

end State

def parse (arguments : List String) : Except Halt Invocation := State.readAll {} arguments

end CommandLine
end BookSearch

/-!
# Options of the converter

Options and paths may stand in any order; after `--` everything is a path. An option takes its
value from the same word, or from the next one unless that looks like an option. Only the pin
lists may be given more than once.
-/

namespace ScanMatrix.Program

structure Options where
  input : Option String := none
  output : Option String := none
  config : Option String := none
  name : Option String := none
  rows : Option (List String) := none
  cols : Option (List String) := none
  diodes : Bool := false
  verbose : Bool := false

/-- What the words of a command line ask for. -/
inductive Invocation where
  | convert (options : Options)
  | help
  | version
  | refused

/-- The parts of a text between commas, empty ones included. -/
def commaParts : List Char → List (List Char)
  | [] => [[]]
  | c :: s =>
    if c = ',' then [] :: commaParts s
    else match commaParts s with
      | [] => [[c]]
      | p :: ps => (c :: p) :: ps

/-- An option that takes a value. -/
inductive Setting where
  | config
  | name
  | rows
  | cols

/-- An option that takes none. -/
inductive Switch where
  | diodes
  | verbose
  | help
  | version

namespace Options

def addPins (pins : Option (List String)) (value : String) : Option (List String) :=
  some (pins.getD [] ++ (commaParts value.toList).map String.ofList)

/-- Gives a value to an option; `none` if it has one already or does not take this one. -/
def set? (o : Options) (s : Setting) (value : String) : Option Options :=
  match s with
  | .config => if o.config.isSome ∨ value = "" then none else some { o with config := some value }
  | .name => if o.name.isSome then none else some { o with name := some value }
  | .rows => some { o with rows := addPins o.rows value }
  | .cols => some { o with cols := addPins o.cols value }

/-- Takes the next path; there are two at most. -/
def addPath? (o : Options) (path : String) : Option Options :=
  if path = "" then none
  else if o.input.isNone then some { o with input := some path }
  else if o.output.isNone then some { o with output := some path }
  else none

/-- Turns on a switch, which is done once at most. The others end the reading. -/
def turnOn (o : Options) : Switch → Except Invocation Options
  | .diodes => if o.diodes then .error .refused else .ok { o with diodes := true }
  | .verbose => if o.verbose then .error .refused else .ok { o with verbose := true }
  | .help => .error .help
  | .version => .error .version

end Options

def longSetting? : String → Option Setting
  | "config" => some .config
  | "name" => some .name
  | "rows" => some .rows
  | "cols" => some .cols
  | _ => none

def longSwitch? : String → Option Switch
  | "diodes" => some .diodes
  | "verbose" => some .verbose
  | "help" => some .help
  | "version" => some .version
  | _ => none

def shortSetting? : Char → Option Setting
  | 'c' => some .config
  | 'n' => some .name
  | _ => none

def shortSwitch? : Char → Option Switch
  | 'd' => some .diodes
  | 'v' => some .verbose
  | 'h' => some .help
  | 'V' => some .version
  | _ => none

/-- What one word does: the options after it, and the option whose value is the next word. -/
abbrev Progress := Options × Option Setting

def orRefuse (o : Option Options) : Except Invocation Progress :=
  match o with
  | some o => .ok (o, none)
  | none => .error .refused

/-- A word that begins with two dashes, without them. -/
def longWord (o : Options) (word : List Char) : Except Invocation Progress :=
  let name := String.ofList (word.takeWhile (· ≠ '='))
  match longSetting? name, word.dropWhile (· ≠ '=') with
  | some s, _ :: value => orRefuse (o.set? s (String.ofList value))
  | some s, [] => .ok (o, some s)
  | none, attached =>
    match longSwitch? name with
    | some s =>
      if attached.isEmpty then (o.turnOn s).map fun o => (o, none) else .error .refused
    | none => .error .refused

/-- The letters of a word that begins with one dash. -/
def shortWord (o : Options) : List Char → Except Invocation Progress
  | [] => .ok (o, none)
  | c :: rest =>
    match shortSetting? c with
    | some s =>
      match rest with
      | [] => .ok (o, some s)
      | '=' :: value => orRefuse (o.set? s (String.ofList value))
      | value => orRefuse (o.set? s (String.ofList value))
    | none =>
      match shortSwitch? c with
      | some s =>
        match o.turnOn s with
        | .error i => .error i
        | .ok o => shortWord o rest
      | none => .error .refused

def complete (o : Options) : Invocation := if o.input.isSome then .convert o else .refused

/-- Words after `--`. -/
def readPaths (o : Options) : List String → Invocation
  | [] => complete o
  | word :: words =>
    match o.addPath? word with
    | some o => readPaths o words
    | none => .refused

def readWords (o : Options) : Option Setting → List String → Invocation
  | none, [] => complete o
  | some _, [] => .refused
  | pending, word :: words =>
    match word.toList, pending with
    | '-' :: '-' :: [], none => readPaths o words
    | '-' :: '-' :: rest, none =>
      match longWord o rest with
      | .ok (o, pending) => readWords o pending words
      | .error i => i
    | '-' :: c :: rest, none =>
      match shortWord o (c :: rest) with
      | .ok (o, pending) => readWords o pending words
      | .error i => i
    | '-' :: _ :: _, some _ => .refused
    | _, some s =>
      match o.set? s word with
      | some o => readWords o none words
      | none => .refused
    | _, none =>
      match o.addPath? word with
      | some o => readWords o none words
      | none => .refused

def Invocation.ofWords (words : List String) : Invocation := readWords {} none words

end ScanMatrix.Program

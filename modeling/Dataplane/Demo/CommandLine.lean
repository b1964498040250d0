/-! # The command line

Two demos share most of their options. Arguments are read from left to right, and the first thing
that is wrong with them decides the answer. An option whose value stands in an argument of its own
is settled only when the next option is read or the line ends, so an argument that nobody knows is
reported before a bad value in front of it.
-/
namespace Dataplane

/-- Why no demo is run. Asking for help or for the version is among the reasons. -/
inductive UsageError
  | noCommand
  | unknownCommand
  | help
  | version
  | unknownArgument
  | missingValue
  | badValue
  | repeated
  | needlessValue
  deriving DecidableEq, Repr

inductive DemoKind
  | forward
  | meter
  deriving DecidableEq, Repr

/-- Options that take a number. -/
inductive Setting
  | buffers
  | cacheSize
  | descriptors
  | payload
  | duration
  | queues
  deriving DecidableEq, Repr

/-- Options that take no value. -/
inductive Switch
  | keepAddresses
  | debug
  deriving DecidableEq, Repr

inductive DemoOption
  | help
  | setting (s : Setting)
  | switch (s : Switch)
  deriving DecidableEq, Repr

/-- What both demos can be told. Without a duration a demo runs until it is interrupted. -/
structure DemoSettings where
  buffers : Nat := 8191
  cacheSize : Nat := 250
  descriptors : Nat := 1024
  payload : Nat := 18
  duration : Option Nat := none
  deriving DecidableEq, Repr

inductive Invocation
  | forward (settings : DemoSettings) (updating : Bool)
  | meter (settings : DemoSettings) (queues : Nat) (debug : Bool)
  deriving DecidableEq, Repr

namespace Setting

def isShort : Setting → Bool
  | descriptors => true
  | queues => true
  | _ => false

def limit (s : Setting) : Nat := if s.isShort then UInt16.size else UInt64.size

def digits? : List Char → Option Nat
  | [] => none
  | cs =>
    if cs.all Char.isDigit then some (cs.foldl (fun n c => n * 10 + (c.toNat - 48)) 0)
    else none

/-- Reads a decimal number with an optional sign. A short word is read as a signed number and must
then not be negative, so that a minus sign may stand before a zero. -/
def number? (s : Setting) (text : List Char) : Option Nat := do
  let n ← match text with
    | '+' :: rest => digits? rest
    | '-' :: rest => if s.isShort then (digits? rest).filter (· = 0) else none
    | rest => digits? rest
  if n < s.limit then return n else none

end Setting

namespace DemoKind

def ofName? : String → Option DemoKind
  | "forward" => some forward
  | "meter" => some meter
  | _ => none

def long? (k : DemoKind) : String → Option DemoOption
  | "help" => some .help
  | "nb-bufs" => some (.setting .buffers)
  | "cache-size" => some (.setting .cacheSize)
  | "nb-desc" => some (.setting .descriptors)
  | "payload" => some (.setting .payload)
  | "duration" => some (.setting .duration)
  | "queues" => if k = meter then some (.setting .queues) else none
  | "debug" => if k = meter then some (.switch .debug) else none
  | "no-mac-updating" => if k = forward then some (.switch .keepAddresses) else none
  | _ => none

def short? (k : DemoKind) : Char → Option DemoOption
  | 'h' => some .help
  | 'q' => if k = meter then some (.setting .queues) else none
  | 'd' => if k = meter then some (.switch .debug) else none
  | _ => none

end DemoKind

/-- What was read so far. -/
structure Reading where
  kind : DemoKind
  settings : List (Setting × Nat) := []
  switches : List Switch := []
  /-- The last setting while it waits for its value, or with a value that is not settled yet. -/
  pending : Option (Setting × Option String) := none
  /-- Whether the mark was read after which nothing is an option. -/
  closed : Bool := false
  deriving DecidableEq, Repr

namespace Reading

def store (r : Reading) (s : Setting) (text : List Char) : Except UsageError Reading :=
  if (r.settings.lookup s).isSome then .error .repeated
  else
    match s.number? text with
    | none => .error .badValue
    | some n => .ok { r with settings := (s, n) :: r.settings }

def turnOn (r : Reading) (s : Switch) : Except UsageError Reading :=
  if s ∈ r.switches then .error .repeated else .ok { r with switches := s :: r.switches }

/-- Stores the setting that is pending. -/
def settle (r : Reading) : Except UsageError Reading :=
  match r.pending with
  | none => .ok r
  | some (_, none) => .error .missingValue
  | some (s, some text) => { r with pending := none }.store s text.toList

/-- A setting with its value in the same argument, or in the next one. -/
def readSetting (r : Reading) (s : Setting) (value : Option (List Char)) :
    Except UsageError Reading := do
  let r ← r.settle
  match value with
  | some text => r.store s text
  | none => return { r with pending := some (s, none) }

def readLong (r : Reading) (name : String) (value : Option (List Char)) :
    Except UsageError Reading :=
  match r.kind.long? name, value with
  | none, _ => .error .unknownArgument
  | some (.setting s), value => r.readSetting s value
  | some _, some _ => .error .needlessValue
  | some .help, none => r.settle >>= fun _ => .error .help
  | some (.switch s), none => r.settle >>= fun r => r.turnOn s

/-- Options by their letters. The rest behind the letter of a setting is its value. -/
def readShort (r : Reading) : List Char → Except UsageError Reading
  | [] => .ok r
  | c :: rest =>
    match r.kind.short? c with
    | none => .error .unknownArgument
    | some .help => r.settle >>= fun _ => .error .help
    | some (.setting s) =>
      r.readSetting s (match rest with
        | [] => none
        | '=' :: text => some text
        | text => some text)
    | some (.switch s) => do
      let r ← r.settle
      let r ← r.turnOn s
      readShort r rest

/-- Something that is no option: the value that a setting waits for. -/
def readPlain (r : Reading) (text : String) : Except UsageError Reading :=
  match r.pending with
  | some (s, none) => .ok { r with pending := some (s, some text) }
  | _ => .error .unknownArgument

/-- The part before the first equals sign, and the part after it if there is one. -/
def splitValue (cs : List Char) : List Char × Option (List Char) :=
  match cs.span (· ≠ '=') with
  | (name, []) => (name, none)
  | (name, _ :: value) => (name, some value)

def readArgument (r : Reading) (argument : String) : Except UsageError Reading :=
  if r.closed then .error .unknownArgument
  else
    match argument.toList with
    | ['-', '-'] => .ok { r with closed := true }
    | '-' :: '-' :: cs =>
      let (name, value) := splitValue cs
      r.readLong (String.ofList name) value
    | '-' :: c :: cs => r.readShort (c :: cs)
    | _ => r.readPlain argument

def invocation (r : Reading) : Invocation :=
  let plain : DemoSettings := {}
  let get (s : Setting) (default : Nat) := (r.settings.lookup s).getD default
  let settings : DemoSettings :=
    { buffers := get .buffers plain.buffers
      cacheSize := get .cacheSize plain.cacheSize
      descriptors := get .descriptors plain.descriptors
      payload := get .payload plain.payload
      duration := r.settings.lookup .duration }
  match r.kind with
  | .forward => .forward settings (.keepAddresses ∉ r.switches)
  | .meter => .meter settings (get .queues 1) (.debug ∈ r.switches)

end Reading

namespace Invocation

def settings : Invocation → DemoSettings
  | forward s _ => s
  | meter s _ _ => s

def isTopic (name : String) : Bool := name = "help" || (DemoKind.ofName? name).isSome

/-- The answer to a request for help on topics, each of which is looked up in the one before. -/
def helpOn : List String → UsageError
  | [] => .help
  | [topic] => if isTopic topic then .help else .unknownCommand
  | _ => .unknownCommand

/-- The options that may stand in place of a command. -/
def topOption : List Char → UsageError
  | '-' :: cs =>
    match Reading.splitValue cs with
    | (name, value) =>
      if name = "help".toList then (if value.isSome then .needlessValue else .help)
      else if name = "version".toList then (if value.isSome then .needlessValue else .version)
      else .unknownArgument
  | 'h' :: _ => .help
  | 'V' :: _ => .version
  | _ => .unknownArgument

/-- After the mark that ends the options no command is recognised any more. -/
def closedTop : List String → UsageError
  | [] => .noCommand
  | argument :: _ => if isTopic argument then .unknownArgument else .unknownCommand

def parse : List String → Except UsageError Invocation
  | [] => .error .noCommand
  | first :: rest =>
    if first = "help" then .error (helpOn rest)
    else
      match DemoKind.ofName? first with
      | some kind => do
        let r ← rest.foldlM Reading.readArgument { kind }
        let r ← r.settle
        return r.invocation
      | none =>
        match first.toList with
        | ['-', '-'] => .error (closedTop rest)
        | '-' :: c :: cs => .error (topOption (c :: cs))
        | _ => .error .unknownCommand

end Invocation
end Dataplane

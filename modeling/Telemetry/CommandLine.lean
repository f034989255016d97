/-
# The command line

The arguments of the simulation. Options are given at most once each, an
option with a value takes it after an equals sign or from the next argument,
and nothing but options is taken. The next argument is no value if it begins
with a hyphen and has more than that. The arguments are read from left to
right, so a request for help ends the reading.

Key definitions: `Options`, `Invocation`, `Invocation.ofArgs?`, `Options.settings`.
-/
import Telemetry.Document.Load

namespace Telemetry

-- Powers are those of core, whatever else is in scope; exponents carry their type for that.
attribute [local instance (high)] instPowNat

/-- The options of a run. -/
structure Options where
  appId? : Option String := none
  /-- The path of a settings document, which overrides the other options on
  metrics. -/
  config? : Option String := none
  disableMetrics : Bool := false
  /-- The concurrent calls for each actor type. -/
  calls : Nat := 20
deriving DecidableEq, Repr, Inhabited

/-- What the command line asks for. -/
inductive Invocation
  | run (options : Options)
  | help
  | version
deriving DecidableEq, Repr

/-- The options with a value. -/
inductive ValueOption
  | appId
  | config
  | calls
deriving DecidableEq, Repr

/-- What the arguments so far have given. -/
structure Given where
  appId? : Option String := none
  config? : Option String := none
  disableMetrics : Bool := false
  calls? : Option Nat := none
deriving DecidableEq, Repr, Inhabited

namespace Given

/-- The options, with what is not given filled in. -/
def options (g : Given) : Options :=
  let calls := g.calls?.getD ({} : Options).calls
  ⟨g.appId?, g.config?, g.disableMetrics, calls⟩

/-- A natural number below 2^64, with or without a plus sign. -/
def count? (s : String) : Option Nat :=
  let digits := match s.toList with
    | '+' :: rest => rest
    | all => all
  if digits.isEmpty ∨ !digits.all Char.isDigit then none
  else
    let n := digits.foldl (fun n c => 10 * n + (c.toNat - '0'.toNat)) 0
    if n < 2 ^ (64 : Nat) then some n else none

/-- Gives an option its value; none if it has one already or the value is not
one of the option's. -/
def set? (g : Given) (o : ValueOption) (value : String) : Option Given :=
  match o with
  | .appId => if g.appId?.isSome then none else some { g with appId? := some value }
  | .config =>
    if g.config?.isSome ∨ value = "" then none else some { g with config? := some value }
  | .calls =>
    if g.calls?.isSome then none
    else (count? value).map fun n => { g with calls? := some n }

end Given

/-- The option with a value of the given name. -/
def ValueOption.ofName? (name : List Char) : Option ValueOption :=
  if name = "app-id".toList then some .appId
  else if name = "config".toList then some .config
  else if name = "calls".toList then some .calls
  else none

namespace Invocation

/-- Whether an argument can be the value of the option before it. -/
def isValue (arg : String) : Bool :=
  match arg.toList with
  | '-' :: _ :: _ => false
  | _ => true

/-- The name in a long option, and what follows the first equals sign. -/
def splitLong (text : List Char) : List Char × Option (List Char) :=
  match text.span (· != '=') with
  | (name, _ :: value) => (name, some value)
  | (name, []) => (name, none)

/-- Reads the arguments after what was given already; none if they are not
taken. -/
def read? (g : Given) : List String → Option Invocation
  | [] => some (.run g.options)
  | arg :: rest =>
    match arg.toList with
    | ['-', '-'] => if rest.isEmpty then some (.run g.options) else none
    | '-' :: '-' :: text =>
      let (name, attached?) := splitLong text
      match ValueOption.ofName? name, attached? with
      | some o, some value =>
        match g.set? o (String.ofList value) with
        | some g => read? g rest
        | none => none
      | some o, none =>
        match rest with
        | [] => none
        | value :: rest =>
          if isValue value then
            match g.set? o value with
            | some g => read? g rest
            | none => none
          else none
      | none, some _ => none
      | none, none =>
        if name = "disable-metrics".toList then
          if g.disableMetrics then none else read? { g with disableMetrics := true } rest
        else if name = "help".toList then some .help
        else if name = "version".toList then some .version
        else none
    | '-' :: 'h' :: _ => some .help
    | '-' :: 'V' :: _ => some .version
    | _ => none

/-- What the arguments ask for; none if they are not taken. -/
def ofArgs? (args : List String) : Option Invocation := read? {} args

end Invocation

/-- Why there are no settings to run with. -/
inductive StartError
  | unreadable (path : String)
  | load (e : LoadError)
deriving DecidableEq, Repr

def StartError.message : StartError → String
  | .unreadable path => s!"unable to read {path}"
  | .load e => e.message

namespace Options

/-- The choices that the options make on a draft. -/
def choices (o : Options) : List Choice :=
  .enabled (!o.disableMetrics) :: (o.appId?.map Choice.appId).toList

/-- The settings of a run on a host of the given name. `document?` is what the
file of the settings holds, if it can be read. -/
def settings (o : Options) (host : String) (document? : Option String) :
    Except StartError Settings :=
  match o.config? with
  | some path =>
    match document? with
    | none => .error (.unreadable path)
    | some document => (Settings.load host document).mapError .load
  | none => ((Draft.ofChoices o.choices).build host).mapError fun e => .load (.invalid e)

end Options
end Telemetry

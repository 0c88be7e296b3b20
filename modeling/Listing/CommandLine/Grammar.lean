import Listing.Text.Blank
import Listing.Text.Digits
import Listing.Text.Split

/-!
# The words of the command line

The commands, the options that each takes, and the values that an option or a place admits.
-/

namespace Listing.CommandLine

inductive ArgName where
  | config
  | verbose
  | compact
  | help
  | version
  | data
  | batch
  | idsOnly
  | contentType
  | viewMode
  | force
  | params
  | spec
  | total
  | path
  deriving DecidableEq

inductive Action where
  /-- One value, at most once. -/
  | value
  /-- Any number of values. -/
  | values
  /-- No value, at most once. -/
  | switch
  /-- No value, any number of times. -/
  | count
  | help
  | version
  deriving DecidableEq

inductive ValueKind where
  | text
  /-- Not empty. -/
  | path
  /-- `key:value`. -/
  | param
  | count
  deriving DecidableEq

structure Arg where
  name : ArgName
  action : Action
  kind : ValueKind := .text
  long : String := ""
  short : Option Char := none
  required : Bool := false

/-- Why a command line is refused, or what is shown in place of running it. -/
inductive UsageError where
  | valueValidation
  | invalidValue
  | unknownArgument
  | invalidSubcommand
  | missingRequiredArgument
  | missingSubcommand
  | argumentConflict
  | tooManyValues
  | displayHelp
  | displayVersion
  | displayHelpOnMissing
  deriving DecidableEq

def UsageError.name : UsageError → String
  | valueValidation => "ValueValidation"
  | invalidValue => "InvalidValue"
  | unknownArgument => "UnknownArgument"
  | invalidSubcommand => "InvalidSubcommand"
  | missingRequiredArgument => "MissingRequiredArgument"
  | missingSubcommand => "MissingSubcommand"
  | argumentConflict => "ArgumentConflict"
  | tooManyValues => "TooManyValues"
  | displayHelp => "DisplayHelp"
  | displayVersion => "DisplayVersion"
  | displayHelpOnMissing => "DisplayHelpOnMissingArgumentOrSubcommand"

/-- A request parameter, cut at the first colon. The key may not be blank. -/
def param? (raw : String) : Option (String × String) :=
  match Text.cut? [':'] raw.toList with
  | some (key, value) =>
    let key := Text.trim key
    if key.isEmpty then none else some (String.ofList key, String.ofList value)
  | none => none

def paramMessage (raw : String) : String := "expected KEY:VALUE, got '" ++ raw ++ "'"

def ValueKind.fault? (raw : String) : ValueKind → Option UsageError
  | text => none
  | path => if raw.isEmpty then some .invalidValue else none
  | param => if (param? raw).isNone then some .valueValidation else none
  | count => if (Text.unsignedCount? raw.toList).isNone then some .valueValidation else none

inductive CommandName where
  | root
  | query
  | block
  | parse
  | pager
  | config
  | configShow
  | configInit
  deriving DecidableEq

namespace CommandName

def common : List Arg := [
  { name := .config, action := .value, kind := .path, long := "config" },
  { name := .verbose, action := .count, long := "verbose", short := some 'v' },
  { name := .compact, action := .switch, long := "compact-output", short := some 'c' },
  { name := .help, action := .help, long := "help", short := some 'h' },
  { name := .version, action := .version, long := "version", short := some 'V' }]

def dataOption : Arg :=
  { name := .data, action := .value, kind := .path, long := "data", short := some 'd' }

def ownOptions : CommandName → List Arg
  | query => [dataOption,
      { name := .batch, action := .value, kind := .path, long := "batch" },
      { name := .idsOnly, action := .switch, long := "ids-only" }]
  | block => [dataOption,
      { name := .contentType, action := .value, long := "content-type" },
      { name := .viewMode, action := .value, long := "view-mode" }]
  | configInit => [{ name := .force, action := .switch, long := "force", short := some 'f' }]
  | _ => []

def options (c : CommandName) : List Arg := c.ownOptions ++ common

def places : CommandName → List Arg
  | query | parse => [{ name := .params, action := .values, kind := .param }]
  | pager => [{ name := .spec, action := .value, required := true },
      { name := .total, action := .value, kind := .count, required := true }]
  | configInit => [{ name := .path, action := .value, kind := .path }]
  | _ => []

def subcommands : CommandName → List (String × CommandName)
  | root => [("query", query), ("block", block), ("parse", parse), ("pager", pager),
      ("config", config)]
  | config => [("show", configShow), ("init", configInit)]
  | _ => []

def long? (c : CommandName) (name : String) : Option Arg :=
  c.options.find? fun arg => arg.long == name

def short? (c : CommandName) (name : Char) : Option Arg :=
  c.options.find? fun arg => arg.short == some name

/-- Pairs of arguments of which only one may be given. -/
def conflicts : CommandName → List (ArgName × ArgName)
  | query => [(.batch, .params)]
  | _ => []

end CommandName
end Listing.CommandLine

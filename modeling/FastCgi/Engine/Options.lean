import FastCgi.Request
import FastCgi.Services

/-!
# Command-line options

The options of the program, each of which starts with two hyphens. An option that takes a value
takes it from the next argument, which must not look like an option itself, or after an equals sign,
where it may look like anything. No option may be given twice but the one that names a user. The
arguments are read from left to right, and the first one that is wrong, or that asks for help, ends
the reading.
-/

namespace FastCgi.Engine

/-- What the program is told. -/
structure Options where
  listen : String
  workers : Nat
  backlog : Nat
  /-- The bound on any read or write, in seconds. -/
  ioTimeout : Nat
  maxParamsBytes : Nat
  maxBodyBytes : Nat
  greeting : Option String
  authorizedUsers : List String
  /-- The parameter that says who the user is. -/
  authParam : String
  noAuthorizer : Bool
  verbose : Bool
  logFile : Option String
deriving DecidableEq, Repr

namespace Options

/-- What holds without any option. -/
def default : Options :=
  ⟨"127.0.0.1:9000", 8, 128, 30, Limits.default.params, Limits.default.body, none, [],
    AllowList.defaultParam, false, false, none⟩

instance : Inhabited Options := ⟨default⟩

/-- Why no options are read. -/
inductive Stop where
  /-- Help was asked for. -/
  | help
  /-- An argument is wrong. -/
  | misuse
deriving DecidableEq, Repr

/-- The exit code of a program that read no options. -/
def Stop.exitCode : Stop → Nat
  | help => 0
  | misuse => 2

/-- The names of the options. -/
inductive Name where
  | listen
  | workers
  | backlog
  | ioTimeout
  | maxParamsBytes
  | maxBodyBytes
  | greeting
  | authorizedUser
  | authParam
  | logFile
  | noAuthorizer
  | verbose
  | help
deriving DecidableEq, Repr

namespace Name

/-- The option of a name, given without its hyphens. -/
def ofString? : String → Option Name
  | "listen" => some listen
  | "workers" => some workers
  | "backlog" => some backlog
  | "io-timeout-secs" => some ioTimeout
  | "max-params-bytes" => some maxParamsBytes
  | "max-body-bytes" => some maxBodyBytes
  | "greeting" => some greeting
  | "authorized-user" => some authorizedUser
  | "auth-param" => some authParam
  | "log-file" => some logFile
  | "no-authorizer" => some noAuthorizer
  | "verbose" => some verbose
  | "help" => some help
  | _ => none

/-- Whether an option takes a value. -/
def takesValue : Name → Bool
  | noAuthorizer | verbose | help => false
  | listen | workers | backlog | ioTimeout | maxParamsBytes | maxBodyBytes | greeting
  | authorizedUser | authParam | logFile => true

/-- Whether an option may be given more than once. -/
def isRepeatable (name : Name) : Bool := name = authorizedUser

end Name

/-- The number that a list of decimal digits spells, if there are digits and nothing else. -/
def decimal? (digits : List Char) : Option Nat :=
  if digits.isEmpty || !digits.all Char.isDigit then none
  else some (digits.foldl (fun n c => n * 10 + (c.toNat - '0'.toNat)) 0)

/-- The number that a text spells in decimal, perhaps after a plus sign, if it is at most `most`. -/
def number? (most : Nat) (text : String) : Option Nat :=
  let n? := match text.toList with
    | '+' :: digits => decimal? digits
    | digits => decimal? digits
  n?.filter (· ≤ most)

/-- The largest number of 64 bits, up to which sizes and times can be given. -/
def maxSize : Nat := 18446744073709551615

/-- The largest number of 32 bits, up to which the length of a queue can be given. -/
def maxBacklog : Nat := 4294967295

/-- The length of a queue that a text spells. It is read as an integer, so that zero may have a
minus sign. -/
def queueLength? (text : String) : Option Nat :=
  match text.toList with
  | '-' :: digits => (decimal? digits).filter (· = 0)
  | _ => number? maxBacklog text

/-- The options with a value given to one of them, if it is a value for it. The path of the log must
not be empty. -/
def withValue (options : Options) (name : Name) (value : String) : Option Options :=
  match name with
  | .listen => some { options with listen := value }
  | .workers => (number? maxSize value).map ({ options with workers := · })
  | .backlog => (queueLength? value).map ({ options with backlog := · })
  | .ioTimeout => (number? maxSize value).map ({ options with ioTimeout := · })
  | .maxParamsBytes => (number? maxSize value).map ({ options with maxParamsBytes := · })
  | .maxBodyBytes => (number? maxSize value).map ({ options with maxBodyBytes := · })
  | .greeting => some { options with greeting := some value }
  | .authorizedUser =>
    some { options with authorizedUsers := options.authorizedUsers ++ [value] }
  | .authParam => some { options with authParam := value }
  | .logFile => if value.isEmpty then none else some { options with logFile := some value }
  | .noAuthorizer | .verbose | .help => none

/-- The options with one of those that take no value. -/
def withFlag (options : Options) (name : Name) : Except Stop Options :=
  match name with
  | .noAuthorizer => .ok { options with noAuthorizer := true }
  | .verbose => .ok { options with verbose := true }
  | _ => .error .help

/-- An argument, told by how it begins. -/
inductive Argument where
  /-- A name, and the value after an equals sign if there is one. -/
  | long (name : String) (value : Option String)
  /-- Letters after a single hyphen. -/
  | short (first : Char)
  /-- Two hyphens alone, behind which there are no options. -/
  | separator
  /-- Anything else. -/
  | plain

/-- Tells an argument by how it begins. -/
def Argument.ofString (argument : String) : Argument :=
  match argument.toList with
  | ['-', '-'] => separator
  | '-' :: '-' :: text =>
    let name := String.ofList (text.takeWhile (· ≠ '='))
    match text.dropWhile (· ≠ '=') with
    | [] => long name none
    | _ :: value => long name (some (String.ofList value))
  | '-' :: first :: _ => short first
  | _ => plain

/-- Whether an argument can be the value of the option before it. -/
def isValue (argument : String) : Bool :=
  match Argument.ofString argument with
  | .plain => true
  | .long .. | .short _ | .separator => false

/-- The options read so far, and the names given. -/
structure Progress where
  options : Options
  given : List Name

/-- Reads an option with its value. -/
def Progress.take (progress : Progress) (name : Name) (value : String) :
    Except Stop Progress :=
  if name ∈ progress.given && !name.isRepeatable then .error .misuse
  else match progress.options.withValue name value with
    | some options => .ok ⟨options, name :: progress.given⟩
    | none => .error .misuse

/-- Reads an option without a value. -/
def Progress.flag (progress : Progress) (name : Name) : Except Stop Progress :=
  if name ∈ progress.given then .error .misuse
  else (progress.options.withFlag name).map (⟨·, name :: progress.given⟩)

/-- Reads the arguments that are left. -/
def parseFrom (progress : Progress) : List String → Except Stop Options
  | [] => .ok progress.options
  | argument :: rest =>
    match Argument.ofString argument with
    | .plain => .error .misuse
    | .separator => if rest.isEmpty then .ok progress.options else .error .misuse
    | .short first => .error (if first = 'h' then .help else .misuse)
    | .long name value? =>
      match Name.ofString? name with
      | none => .error .misuse
      | some name =>
        if name.takesValue then
          match value?, rest with
          | some value, rest =>
            match progress.take name value with
            | .error stop => .error stop
            | .ok progress => parseFrom progress rest
          | none, value :: rest =>
            if isValue value then
              match progress.take name value with
              | .error stop => .error stop
              | .ok progress => parseFrom progress rest
            else .error .misuse
          | none, [] => .error .misuse
        else if value?.isSome then .error .misuse
        else match progress.flag name with
          | .error stop => .error stop
          | .ok progress => parseFrom progress rest

/-- The options that the arguments of the program spell. -/
def parse (arguments : List String) : Except Stop Options := parseFrom ⟨default, []⟩ arguments

/-- How the program is called. -/
def usage : String :=
  "\n".intercalate ["FastCGI application server", "", "Options:",
    "  --listen ADDRESS             where to listen; port 0 leaves the choice to the host",
    "  --workers N                  connections served at a time",
    "  --backlog N                  connections that may wait",
    "  --io-timeout-secs N          how long a read or a write may take",
    "  --max-params-bytes N         the most bytes of parameters in a request",
    "  --max-body-bytes N           the most bytes of body in a request",
    "  --greeting TEXT              what the responder begins with",
    "  --authorized-user NAME       a user who may pass; may be given again",
    "  --auth-param NAME            the parameter that names the user",
    "  --no-authorizer              have no authorizer",
    "  --verbose                    log more",
    "  --log-file PATH              where the log goes, instead of the standard output",
    "  --help                       show this"]

end Options

end FastCgi.Engine

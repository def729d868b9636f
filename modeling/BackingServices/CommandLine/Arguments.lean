import BackingServices.Text.Similarity

/-!
# Arguments

The program takes one argument, the name of a service, and flags.  Flags may stand
anywhere before a double dash; behind it, every argument is a name.  A single dash is a
name too.

Arguments are read from left to right.  The first fault, or the first flag that asks
for help or for the version, decides.  Only if all arguments are read the name may be
found missing.

A refusal shows the usage.  Which flags the usage shows depends on the fault: those that
were given so far, or just that there are some.
-/

namespace BackingServices.CommandLine

/-- The name of the program. -/
def programName : String := "quartermaster"

/-- The version of the program. -/
def programVersion : String := "0.1.0"

/-- A flag. -/
inductive Flag where
  /-- Print the manifests. -/
  | dryRun
  /-- Skip the check of the cluster. -/
  | skipPreflight
  /-- Print help. -/
  | help
  /-- Print the version. -/
  | version
deriving DecidableEq

namespace Flag

/-- All flags. -/
def all : List Flag := [.dryRun, .skipPreflight, .help, .version]

/-- The name of a flag. -/
def name : Flag → String
  | .dryRun => "dry-run"
  | .skipPreflight => "skip-preflight"
  | .help => "help"
  | .version => "version"

/-- The letter of a flag. -/
def letter? : Flag → Option Char
  | .help => some 'h'
  | .version => some 'V'
  | _ => none

/-- A flag as it is written. -/
def text (f : Flag) : String := "--" ++ f.name

/-- The flag of a name. -/
def ofName? (s : String) : Option Flag := all.find? fun f => f.name = s

/-- The flag of a letter. -/
def ofLetter? (c : Char) : Option Flag := all.find? fun f => f.letter? = some c

/-- The similarity above which a flag is proposed. -/
def proposable : Text.Share := ⟨7, 10⟩

/-- The flag whose name is most similar to a text, if it is similar enough. -/
def similar? (s : String) : Option Flag :=
  all.foldl (fun best? f =>
    let share := Text.similarity s.toList f.name.toList
    if share.le proposable then best?
    else
      match best? with
      | some best => if (Text.similarity s.toList best.name.toList).le share then some f else best?
      | none => some f) none

end Flag

/-! ## Refusals -/

/-- What is proposed instead of an argument. -/
inductive Proposal where
  /-- A flag. -/
  | flag (f : Flag)
  /-- The argument behind a double dash. -/
  | asName
deriving DecidableEq

/-- Why arguments are refused. -/
inductive UsageError where
  /-- There is no name. -/
  | noService
  /-- An argument is not known. -/
  | unexpected (argument : String) (proposal? : Option Proposal)
  /-- A flag has a value. -/
  | unexpectedValue (value : String) (flag : Flag)
  /-- A flag is given twice. -/
  | repeated (flag : Flag)
deriving DecidableEq

namespace UsageError

/-- What is said of a proposal. -/
def proposalText (argument : String) : Proposal → String
  | .flag f => "  tip: a similar argument exists: '" ++ f.text ++ "'\n\n"
  | .asName => "  tip: to pass '" ++ argument ++ "' as a value, use '-- " ++ argument ++ "'\n\n"

/-- The wording of a refusal. -/
def message : UsageError → String
  | .noService => "the following required arguments were not provided:\n  <SERVICE>\n\n"
  | .unexpected argument proposal? =>
    "unexpected argument '" ++ argument ++ "' found\n\n" ++
      (match proposal? with
      | some proposal => proposalText argument proposal
      | none => "")
  | .unexpectedValue value flag =>
    "unexpected value '" ++ value ++ "' for '" ++ flag.text ++ "' found; no more were expected\n\n"
  | .repeated flag => "the argument '" ++ flag.text ++ "' cannot be used multiple times\n\n"

end UsageError

/-! ## Usage -/

/-- The usage of the program with some flags, or without saying which. -/
def usage (flags? : Option (List Flag)) : String :=
  "Usage: " ++ programName ++ " " ++
    (match flags? with
    | some flags => String.join (flags.map fun f => f.text ++ " ")
    | none => "[OPTIONS] ") ++ "<SERVICE>"

/-- What is printed when arguments are refused. -/
def refusalText (e : UsageError) (flags? : Option (List Flag)) : String :=
  "error: " ++ e.message ++ usage flags? ++ "\n\nFor more information, try '--help'.\n"

/-- What is printed as help. -/
def helpText : String :=
  "Provision the cache, document store and message broker of a service\n\n" ++ usage none ++ "\n\n" ++
    "Arguments:\n" ++
    "  <SERVICE>  Name of the service being onboarded; prefixes the target namespace\n\n" ++
    "Options:\n" ++
    "      --dry-run         Print the HelmChart manifests instead of applying them. Still needs a " ++
    "loadable kubeconfig, but sends no requests to the cluster\n" ++
    "      --skip-preflight  Skip checking that the cluster serves the HelmChart CRD\n" ++
    "  -h, --help            Print help\n" ++
    "  -V, --version         Print version\n"

/-- What is printed as the version. -/
def versionText : String := programName ++ " " ++ programVersion ++ "\n"

/-! ## Reading -/

/-- What the arguments say. -/
structure Arguments where
  /-- The name of the service. -/
  service : String
  /-- Whether the manifests are printed and not applied. -/
  dryRun : Bool
  /-- Whether the check of the cluster is skipped. -/
  skipPreflight : Bool
deriving DecidableEq

/-- What the arguments ask for. -/
inductive Request where
  /-- A run of the program. -/
  | run (arguments : Arguments)
  /-- Help. -/
  | help
  /-- The version. -/
  | version
  /-- Nothing that is understood; the usage shows some flags. -/
  | refused (error : UsageError) (flags? : Option (List Flag))
deriving DecidableEq

/-- What was read so far. -/
structure Progress where
  /-- The name of the service. -/
  service? : Option String
  /-- The flags, in order. -/
  flags : List Flag
deriving DecidableEq

namespace Progress

/-- Nothing was read. -/
def start : Progress := ⟨none, []⟩

/-- The flags that are shown with one more. -/
def flagsWith (p : Progress) (f : Flag) : List Flag := if f ∈ p.flags then p.flags else p.flags ++ [f]

/-- What is asked for at the end of the arguments. -/
def finish (p : Progress) : Request :=
  match p.service? with
  | some service => .run ⟨service, .dryRun ∈ p.flags, .skipPreflight ∈ p.flags⟩
  | none => .refused .noService (some p.flags)

/-- Refuses a flag that is not known. -/
def refuseFlag (p : Progress) (name : String) : Request :=
  match Flag.similar? name with
  | some f => .refused (.unexpected ("--" ++ name) (some (.flag f))) (some (p.flagsWith f))
  | none =>
    .refused (.unexpected ("--" ++ name) (some .asName))
      (if p.service?.isNone ∧ p.flags = [] then none else some p.flags)

/-- Refuses a letter that is not known. -/
def refuseLetter (c : Char) : Request :=
  .refused (.unexpected (String.ofList ['-', c]) (some .asName)) none

end Progress

/-- What an argument before the double dash is. -/
inductive Token where
  /-- The double dash. -/
  | endOfFlags
  /-- A flag by name, and its value if it has one. -/
  | named (name : String) (value? : Option String)
  /-- A flag by letter; what follows the letter is never looked at. -/
  | lettered (letter : Char)
  /-- A name. -/
  | value

/-- What an argument is. -/
def Token.of (argument : String) : Token :=
  match argument.toList with
  | ['-', '-'] => .endOfFlags
  | '-' :: '-' :: cs =>
    .named (String.ofList (cs.takeWhile (· != '=')))
      (match cs.dropWhile (· != '=') with
      | _ :: given => some (String.ofList given)
      | [] => none)
  | '-' :: c :: _ => .lettered c
  | _ => .value

/-- Reads the arguments that are left; `flagsEnded` is whether the double dash was there. -/
def Progress.read (p : Progress) (flagsEnded : Bool) : List String → Request
  | [] => p.finish
  | argument :: rest =>
    match if flagsEnded then Token.value else Token.of argument with
    | .endOfFlags => p.read true rest
    | .value =>
      match p.service? with
      | none => Progress.read ⟨some argument, p.flags⟩ flagsEnded rest
      | some _ => .refused (.unexpected argument none) none
    | .lettered c =>
      match Flag.ofLetter? c with
      | some .help => .help
      | some .version => .version
      | _ => Progress.refuseLetter c
    | .named name value? =>
      match Flag.ofName? name, value? with
      | none, _ => p.refuseFlag name
      | some f, some value => .refused (.unexpectedValue value f) (some (p.flagsWith f))
      | some .help, none => .help
      | some .version, none => .version
      | some f, none =>
        if f ∈ p.flags then .refused (.repeated f) none
        else Progress.read ⟨p.service?, p.flags ++ [f]⟩ flagsEnded rest

/-- What arguments ask for. -/
def Request.ofArguments (arguments : List String) : Request := Progress.start.read false arguments

end BackingServices.CommandLine

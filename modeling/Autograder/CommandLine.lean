/-
# The command line

| option | meaning |
| --- | --- |
| `--no-pi` | leave out the parallel pi test |
| `--no-exchange` | leave out the message exchange test |
| `--no-generate` | use the configured workload file as it is |
| `--grade` | write the report to a file |
| `--file FILE` | use this workload file as it is |
| `-e`, `--env NAME` | the environment, `dev` if none is given |
| `--seed NUMBER` | the seed of the workload |
| `-v`, `--verbose` | build for debugging |
| `--report FILE` | the file for the report, `grade.json` if none is given |
| `-h`, `--help` and `-V`, `--version` | say what there is to say and stop |

A value follows its option or is attached to it by an equals sign, and after a letter even without
one. A value that is not attached cannot start with a dash, unless it is nothing else. No option can
be given twice, and there is nothing but options.
-/

import Autograder.Text.Decimal

namespace Autograder

/-- What the command line asks for. -/
structure Options where
  noPi : Bool
  noExchange : Bool
  noGenerate : Bool
  grade : Bool
  file : Option String
  environment : String
  seed : Option UInt64
  verbose : Bool
  report : String
  deriving DecidableEq, Repr

/-- Why a command line does not start the grader. -/
inductive Refusal where
  | help
  | version
  | malformed
  deriving DecidableEq, Repr

namespace Refusal

/-- The exit code: asking for help or for the version is no mistake. -/
def exitCode : Refusal → Nat
  | .help | .version => 0
  | .malformed => 2

/-- What the options are. -/
def usage : String :=
  "\n".intercalate
    ["Autograder for the parallel pi and message exchange labs", "", "Options:",
      "      --no-pi          leave out the parallel pi test",
      "      --no-exchange    leave out the message exchange test",
      "      --no-generate    use the configured workload file as it is",
      "      --grade          write the report to a file",
      "      --file FILE      use this workload file as it is",
      "  -e, --env NAME       use config/NAME.yaml (dev)",
      "      --seed NUMBER    the seed of the workload",
      "  -v, --verbose        build for debugging",
      "      --report FILE    the file for the report (grade.json)",
      "  -h, --help           show this",
      "  -V, --version        show the version", ""]

/-- What is printed for those who ask. -/
def printed : Refusal → String
  | .help => usage
  | .version => "autograder 0.1.0\n"
  | .malformed => ""

/-- What is wrong, if anything is. -/
def problem? : Refusal → Option String
  | .help | .version => none
  | .malformed => some "error: this command line is not understood; see --help"

end Refusal

/-- The options that are either given or not. -/
inductive Flag where
  | noPi
  | noExchange
  | noGenerate
  | grade
  | verbose
  deriving DecidableEq, Repr

/-- The options that have a value. -/
inductive Setting where
  | file
  | environment
  | seed
  | report
  deriving DecidableEq, Repr

/-- An option. -/
inductive OptionKind where
  | flag (f : Flag)
  | setting (s : Setting)
  | refusal (r : Refusal)

/-- What has been read of a command line. -/
structure Given where
  flags : List Flag
  file : Option String
  environment : Option String
  seed : Option UInt64
  report : Option String

namespace OptionKind

/-- The option of a long name. -/
def ofName? (name : String) : Option OptionKind :=
  match name with
  | "no-pi" => some (.flag .noPi)
  | "no-exchange" => some (.flag .noExchange)
  | "no-generate" => some (.flag .noGenerate)
  | "grade" => some (.flag .grade)
  | "verbose" => some (.flag .verbose)
  | "file" => some (.setting .file)
  | "env" => some (.setting .environment)
  | "seed" => some (.setting .seed)
  | "report" => some (.setting .report)
  | "help" => some (.refusal .help)
  | "version" => some (.refusal .version)
  | _ => none

/-- The option of a letter. -/
def ofLetter? : Char → Option OptionKind
  | 'e' => some (.setting .environment)
  | 'v' => some (.flag .verbose)
  | 'h' => some (.refusal .help)
  | 'V' => some (.refusal .version)
  | _ => none

end OptionKind

namespace Given

/-- Nothing has been read. -/
def nothing : Given := ⟨[], none, none, none, none⟩

/-- One more flag. -/
def withFlag (g : Given) (f : Flag) : Except Refusal Given :=
  if g.flags.contains f then .error .malformed else .ok { g with flags := f :: g.flags }

/-- A value where there was none. -/
def once {α : Type} (old : Option α) (new : Option α) : Except Refusal (Option α) :=
  match old, new with
  | none, some x => .ok (some x)
  | _, _ => .error .malformed

/-- A path, which is not empty. -/
def path? (value : String) : Option String := if value.isEmpty then none else some value

/-- A seed in decimal. -/
def seed? (value : String) : Option UInt64 :=
  (Text.readNat? Text.maxUInt64 value.toList).map UInt64.ofNat

/-- One more setting. -/
def withSetting (g : Given) (s : Setting) (value : String) : Except Refusal Given :=
  match s with
  | .file => (once g.file (path? value)).map fun x => { g with file := x }
  | .environment => (once g.environment (some value)).map fun x => { g with environment := x }
  | .seed => (once g.seed (seed? value)).map fun x => { g with seed := x }
  | .report => (once g.report (path? value)).map fun x => { g with report := x }

/-- What the command line asks for. -/
def options (g : Given) : Options :=
  { noPi := g.flags.contains .noPi
    noExchange := g.flags.contains .noExchange
    noGenerate := g.flags.contains .noGenerate
    grade := g.flags.contains .grade
    file := g.file
    environment := g.environment.getD "dev"
    seed := g.seed
    verbose := g.flags.contains .verbose
    report := g.report.getD "grade.json" }

end Given

namespace CommandLine

/-- The value that is attached by an equals sign to what is not one. -/
def attached? : List Char → Option String
  | '=' :: value => some (String.ofList value)
  | _ => none

/-- The letters of a group: what has been read with them, and the setting whose value is still to
come. -/
def readLetters (g : Given) : List Char → Except Refusal (Given × Option Setting)
  | [] => .ok (g, none)
  | c :: cs =>
    match OptionKind.ofLetter? c with
    | none => .error .malformed
    | some (.refusal r) => .error r
    | some (.flag f) => (g.withFlag f).bind fun g => readLetters g cs
    | some (.setting s) =>
      if cs.isEmpty then .ok (g, some s)
      else (g.withSetting s ((attached? cs).getD (String.ofList cs))).map fun g => (g, none)

/-- A long option: what has been read with it, and the setting whose value is still to come. -/
def readLong (g : Given) (text : List Char) : Except Refusal (Given × Option Setting) :=
  let name := text.takeWhile (· != '=')
  match OptionKind.ofName? (String.ofList name), attached? (text.drop name.length) with
  | some (.setting s), some value => (g.withSetting s value).map fun g => (g, none)
  | some (.setting s), none => .ok (g, some s)
  | some (.flag f), none => (g.withFlag f).map fun g => (g, none)
  | some (.refusal r), none => .error r
  | _, _ => .error .malformed

/-- An argument can be the value of the option before it. -/
def isValue (arg : String) : Bool := arg == "-" || arg.toList.head? != some '-'

/-- One argument after others: what has been read, and the setting whose value is still to come. -/
def readArgument (g : Given) (arg : String) : Except Refusal (Given × Option Setting) :=
  match arg.toList with
  | '-' :: '-' :: name => readLong g name
  | '-' :: c :: cs => readLetters g (c :: cs)
  | _ => .error .malformed

/-- The arguments after others, where the value of a setting may still be to come. -/
def readFrom (g : Given) : Option Setting → List String → Except Refusal Given
  | none, [] => .ok g
  | some _, [] => .error .malformed
  | some s, arg :: args =>
    if isValue arg then (g.withSetting s arg).bind fun g => readFrom g none args
    else .error .malformed
  | none, arg :: args =>
    if arg = "--" then (if args.isEmpty then .ok g else .error .malformed)
    else (readArgument g arg).bind fun (g, pending) => readFrom g pending args

/-- What a command line asks for. -/
def read (args : List String) : Except Refusal Options :=
  (readFrom .nothing none args).map Given.options

end CommandLine
end Autograder

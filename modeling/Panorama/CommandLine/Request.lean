import Panorama.CommandLine.Options

/-!
# Requests

What the program can be asked for on its command line, and its help texts.
-/

namespace Panorama.CommandLine

/-- What to stitch. -/
structure StitchRequest where
  /-- Path of the configuration. -/
  config : String
  /-- Paths of the raw inputs. -/
  inputs : List String
  /-- Width of the raw frames, if not that of the template's sources. -/
  inputWidth : Option UInt32
  /-- Path of the raw output. -/
  out : String
  /-- Path of the raw previews. -/
  previewOut : Option String
  /-- Number of frame sets to stop after. -/
  frames : Option Nat
  /-- Path of a picture of the first output. -/
  png : Option String
  deriving DecidableEq, Repr

/-- What the program is asked for. -/
inductive Request where
  /-- To describe a template. -/
  | info (template : String)
  /-- To stitch. -/
  | stitch (request : StitchRequest)
  /-- To print a text. -/
  | print (text : String)
  /-- Something that is not understood. -/
  | misuse (reason : String)
  deriving DecidableEq, Repr

/-- Name and version. -/
def versionText : String := "panostitch 0.1.0\n"

/-- The help of the program. -/
def helpText : String :=
"Usage: panostitch <COMMAND>

Commands:
  info    Print a template's geometry, tags and coverage
  stitch  Stitch raw input streams into raw output frames
  help    Print this message or the help of the given subcommand(s)

Options:
  -h, --help     Print help
  -V, --version  Print version
"

/-- The help of `info`. -/
def infoHelpText : String :=
"Print a template's geometry, tags and coverage

Usage: panostitch info --template <TEMPLATE>

Options:
      --template <TEMPLATE>  Template file
  -h, --help                 Print help
"

/-- The help of `stitch`. -/
def stitchHelpText : String :=
"Stitch raw input streams into raw output frames

Usage: panostitch stitch [OPTIONS] --config <CONFIG> --input <INPUTS> --out <OUT>

Options:
      --config <CONFIG>            Stitch config JSON
      --input <INPUTS>             Raw input stream, once per configured input, in input order
      --input-width <INPUT_WIDTH>  Width of the raw input frames before cropping. " ++
"Defaults to the template input width
      --out <OUT>                  Raw output file; every cycle's outputs are written back to back
      --preview-out <PREVIEW_OUT>  Raw preview output file
      --frames <FRAMES>            Stop after this many frame sets
      --png <PNG>                  Write the first output of the first cycle as a PNG
  -h, --help                       Print help
"

/-- The help of `help`. -/
def helpHelpText : String :=
"Print this message or the help of the given subcommand(s)

Usage: panostitch help [COMMAND]...

Arguments:
  [COMMAND]...  Print help for the subcommand(s)
"

namespace Request

/-- The options of `info`. -/
def infoRules : List OptionRule := [pathRule "--template" true false]

/-- The options of `stitch`. -/
def stitchRules : List OptionRule :=
  [pathRule "--config" true false, pathRule "--input" true true,
    { name := "--input-width", required := false, repeatable := false
      accepts := fun value ↦ (width? value).isSome },
    pathRule "--out" true false, pathRule "--preview-out" false false,
    { name := "--frames", required := false, repeatable := false
      accepts := fun value ↦ (count? value).isSome },
    pathRule "--png" false false]

/-- The request that given options of `info` make. -/
def ofInfo (given : Given) : Request :=
  .info ((given.value? "--template").getD "")

/-- The request that given options of `stitch` make. -/
def ofStitch (given : Given) : Request :=
  .stitch {
    config := (given.value? "--config").getD ""
    inputs := given.values "--input"
    inputWidth := (given.value? "--input-width").bind width?
    out := (given.value? "--out").getD ""
    previewOut := given.value? "--preview-out"
    frames := (given.value? "--frames").bind count?
    png := given.value? "--png" }

/-- The request of a command with options. -/
def ofOptions (rules : List OptionRule) (help : String) (make : Given → Request)
    (words : List String) : Request :=
  match readOptions rules [] words with
  | .ok given => make given
  | .error .help => .print help
  | .error (.misuse reason) => .misuse reason

/-- The request for the help of a command. -/
def ofHelp : List String → Request
  | [] => .print helpText
  | ["info"] => .print infoHelpText
  | ["stitch"] => .print stitchHelpText
  | ["help"] => .print helpHelpText
  | _ => .misuse "unrecognized subcommand"

/-- What the words of a command line ask for. -/
def ofWords : List String → Request
  | [] => .misuse "a subcommand is required"
  | "info" :: words => ofOptions infoRules infoHelpText ofInfo words
  | "stitch" :: words => ofOptions stitchRules stitchHelpText ofStitch words
  | "help" :: words => ofHelp words
  | word :: _ =>
    if word = "--help" ∨ word.startsWith "-h" then .print helpText
    else if word = "--version" ∨ word.startsWith "-V" then .print versionText
    else .misuse s!"unexpected argument '{word}'"

end Request

end Panorama.CommandLine

import FrameTap.CommandLine.Opt
import FrameTap.CommandLine.Style
import FrameTap.Environment
import FrameTap.Settings

/-!
# Help

The two help texts: a short one with one line for each option, and a detailed one with
the forms of output explained.  Both show the environment variable with its value; a
line break in the value is followed by the indent of the text around it.  As for a report
of misuse there is a form as a text (`help`) and one for the standard output
(`writtenHelp`).
-/

namespace FrameTap.CommandLine

def indent : Text := List.replicate 10 ' '

def unlines (lines : List Text) : Text := lines.flatMap (· ++ ['\n'])

def shortHelpHint : Text := "Print help (see more with '--help')".toList

def detailedHelpHint : Text := "Print help (see a summary with '-h')".toList

/-- The note about the environment variable. -/
def variableNote (env? : Option Bytes) : Text :=
  let value := Utf8.decodeLossy (env?.getD [])
  "[env: ".toList ++ endpointsVariable ++
    '=' :: value.flatMap (fun c => if c = '\n' then '\n' :: indent else [c]) ++ [']']

def defaultNote (value : Text) : Text := "[default: ".toList ++ value ++ [']']

def words (texts : List Text) (separator : Text) : Text := (texts.intersperse separator).flatten

def endpointHelp : Text :=
  "Full endpoints, e.g. tcp://127.0.0.1:1226. Overrides --host/--port".toList

def intro : List Text :=
  ["Print every message published on ZeroMQ endpoints".toList, [],
   Style.heading.apply "Usage:".toList ++ ' ' :: Style.name.apply "zmq-printer".toList ++
     " [OPTIONS]".toList,
   [], Style.heading.apply "Options:".toList]

def portsNote : Text :=
  defaultNote (words (defaultPorts.map fun port => Numeral.write port.toNat) [' '])

/-- The line that names an option. -/
def optionLine (n : Named) : Text :=
  let long := Style.name.apply n.dashed ++ n.values
  match n.short? with
  | some c => ' ' :: ' ' :: Style.name.apply ['-', c] ++ ',' :: ' ' :: long
  | none => List.replicate 6 ' ' ++ long

def shortHelp (env? : Option Bytes) : Text :=
  unlines <| intro ++
    [optionLine (.opt .endpoint),
     indent ++ endpointHelp ++ ' ' :: variableNote env?,
     optionLine (.opt .host),
     indent ++ defaultNote defaultHost,
     optionLine (.opt .port),
     indent ++ portsNote,
     optionLine (.opt .format),
     indent ++ defaultNote Format.raw.name ++ " [possible values: ".toList ++
       words (Format.all.map Format.name) ", ".toList ++ [']'],
     optionLine (.opt .pollInterval),
     indent ++ defaultNote (Numeral.write defaultPollMillis),
     optionLine (.switch .debug),
     indent,
     optionLine (.switch .help),
     indent ++ shortHelpHint]

/-- A format and its description; the names are filled up to one width. -/
def formatLine (format : Format) : Text :=
  indent ++ "- ".toList ++ Style.name.apply format.name ++
    ':' :: List.replicate (6 - format.name.length) ' ' ++ format.help

def detailedHelp (env? : Option Bytes) : Text :=
  unlines <| intro ++
    [optionLine (.opt .endpoint),
     indent ++ endpointHelp,
     indent,
     indent ++ variableNote env?,
     [],
     optionLine (.opt .host),
     indent ++ defaultNote defaultHost,
     [],
     optionLine (.opt .port),
     indent ++ portsNote,
     [],
     optionLine (.opt .format),
     indent ++ "Possible values:".toList] ++
    Format.all.map formatLine ++
    [indent,
     indent ++ defaultNote Format.raw.name,
     [],
     optionLine (.opt .pollInterval),
     indent ++ defaultNote (Numeral.write defaultPollMillis),
     [],
     optionLine (.switch .debug),
     indent,
     [],
     optionLine (.switch .help),
     indent ++ detailedHelpHint]

/-- A help text with its styles. -/
def styledHelp (detailed : Bool) (env? : Option Bytes) : Text :=
  if detailed then detailedHelp env? else shortHelp env?

/-- A help text as a terminal shows it. -/
def help (detailed : Bool) (env? : Option Bytes) : Text :=
  Text.plain (styledHelp detailed env?)

/-- A help text as the program writes it out, with or without styles. -/
def writtenHelp (styles detailed : Bool) (env? : Option Bytes) : Text :=
  if styles then styledHelp detailed env? else Text.plainStream (styledHelp detailed env?)

end FrameTap.CommandLine

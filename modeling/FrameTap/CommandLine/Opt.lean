import FrameTap.Text.Utf8

/-!
# Options

The options of the command line: five that take values and two switches.  Two of the
former take several values, may be repeated, and hold several values in one argument
with spaces between them.
-/

namespace FrameTap.CommandLine

/-- An option that takes values. -/
inductive Opt where
  | endpoint
  | host
  | port
  | format
  | pollInterval
  deriving DecidableEq

inductive Switch where
  | debug
  | help
  deriving DecidableEq

/-- Whatever a name on the command line may stand for. -/
inductive Named where
  | opt (o : Opt)
  | switch (s : Switch)
  deriving DecidableEq

namespace Opt

/-- Takes several values, in one place or in several. -/
def isMany : Opt → Bool
  | endpoint | port => true
  | host | format | pollInterval => false

end Opt

namespace Named

def all : List Named :=
  [.opt .endpoint, .opt .host, .opt .port, .opt .format, .opt .pollInterval, .switch .debug,
   .switch .help]

/-- The name behind two dashes. -/
def long : Named → Text
  | opt .endpoint => "endpoint".toList
  | opt .host => "host".toList
  | opt .port => "port".toList
  | opt .format => "format".toList
  | opt .pollInterval => "poll-interval-ms".toList
  | switch .debug => "debug".toList
  | switch .help => "help".toList

/-- The letter behind one dash, if there is one. -/
def short? : Named → Option Char
  | opt .endpoint => some 'e'
  | opt .port => some 'p'
  | opt .format => some 'f'
  | switch .debug => some 'd'
  | switch .help => some 'h'
  | opt .host | opt .pollInterval => none

/-- The names of the values behind an option, each with a space before it. -/
def values : Named → Text
  | opt .endpoint => " <ENDPOINT>...".toList
  | opt .host => " <HOST>".toList
  | opt .port => " <PORT>...".toList
  | opt .format => " <FORMAT>".toList
  | opt .pollInterval => " <POLL_INTERVAL_MS>".toList
  | switch _ => []

/-- The long name as it is typed. -/
def dashed (n : Named) : Text := '-' :: '-' :: n.long

/-- How messages show it: an option with the names of its values. -/
def usage (n : Named) : Text := n.dashed ++ n.values

def ofLong? (name : Bytes) : Option Named := all.find? fun n => Utf8.encode n.long == name

def ofShort? (c : Char) : Option Named := all.find? fun n => n.short? == some c

end Named
end FrameTap.CommandLine

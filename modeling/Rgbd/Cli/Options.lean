import Rgbd.Decimal.Parse

/-!
The command line of the sandbox.

Arguments are read left to right. `--name value`, `--name=value`, `-x value`, `-xvalue`
and `-x=value` give an option its value; a value cannot start with `-` unless it is `-`
alone, so an option followed by another argument is left without a value. The help and
version flags end reading at once, so they win over any error found later; unknown
arguments and positional arguments are errors at once. After reading, an option left
without a value takes its default; an option given twice, an option without a value or a
default, and a value that does not parse are errors.

Help comes in two lengths. Each option is shown with its switches and value name, padded
to a common column, followed by its help and default; long help puts every help text on
the lines below its option, and a help text that would run past the terminal width starts
below its option too, or is wrapped at spaces.
-/

namespace Rgbd.Cli

/-- A flag or an option of a command line. -/
structure Arg where
  short : Option Char
  long : String
  takesValue : Bool
  help : String
  longHelp : Option String := none
  default : Option String := none

namespace Arg

def display (a : Arg) : String :=
  "--" ++ a.long ++ (if a.takesValue then " <" ++ a.long ++ ">" else "")

def defaultText (a : Arg) : String :=
  match a.default with
  | some d => " [default: " ++ d ++ "]"
  | none => ""

end Arg

def flags : List Arg :=
  [ ⟨some 'h', "help", false, "Prints help information", none, none⟩,
    ⟨some 'V', "version", false, "Prints version information", none, none⟩ ]

def options : List Arg :=
  [ ⟨some 'd', "duration", true, "Seconds to stream for", none, some "5"⟩,
    ⟨none, "fps", true, "Frame rate of the synthetic video streams", none, some "30"⟩,
    ⟨none, "height", true, "Height of the synthetic video streams", none, some "48"⟩,
    ⟨some 's', "settings", true, "The file where settings are specified",
      some ("The file where settings are specified.\n\nThis is in the format of " ++
        "`depthsync::Settings`. Without it every stream the synthetic camera offers is " ++
        "enabled, with alignment and point clouds."), some "depthsync-settings.json"⟩,
    ⟨none, "stall-after", true,
      "Stop delivering frames this many seconds in, until the device is reset", none, none⟩,
    ⟨none, "watchdog-timeout", true, "Watchdog timeout in seconds, overriding the settings",
      none, none⟩,
    ⟨none, "width", true, "Width of the synthetic video streams", none, some "64"⟩ ]

def programName : String := "depthsync-sandbox"

def version : String := "0.1.0"

def about : String := "Runs the depth sync engine against a synthetic camera"

def terminalWidth : Nat := 120

def spaces (n : Nat) : String := String.ofList (List.replicate n ' ')

def fillLine (width : Nat) (line : String) : List String :=
  let words := (line.splitOn " ").filter (· ≠ "")
  match words with
  | [] => [""]
  | w :: rest =>
    let (lines, current) := rest.foldl (fun (acc : List String × String) word =>
      let (lines, current) := acc
      if current.length + 1 + word.length ≤ width then (lines, current ++ " " ++ word)
      else (lines ++ [current], word)) ([], w)
    lines ++ [current]

def wrap (width : Nat) (text : String) : List String :=
  (text.splitOn "\n").flatMap (fillLine width)

def Arg.helpEntry (a : Arg) (longest : Nat) (useLong : Bool) : String :=
  let switches := "    " ++ (match a.short with
    | some c => "-" ++ c.toString ++ ", "
    | none => "    ") ++ a.display
  let shortWidth := a.help.length + a.defaultText.length
  let taken := longest + 12
  let forceNextLine := terminalWidth ≥ taken && taken * 10 > terminalWidth * 4 &&
    shortWidth > terminalWidth - taken
  let padding := if forceNextLine then "" else spaces (longest - a.display.length + 4)
  let h := if useLong then a.longHelp.getD a.help else a.help
  let nextLine := useLong || forceNextLine
  let indent := if nextLine then 12 else longest + 12
  let text := h ++ a.defaultText
  let tooLong := indent + h.length + a.defaultText.length ≥ terminalWidth
  let lines := if tooLong && indent ≤ terminalWidth then wrap (terminalWidth - indent) text
    else text.splitOn "\n"
  let body := "\n".intercalate (match lines with
    | [] => []
    | first :: rest => first :: rest.map fun l => spaces indent ++ l)
  switches ++ padding ++ (if nextLine then "\n" ++ spaces 12 else "") ++ body ++
    (if lines.length ≤ 1 && nextLine then "\n" else "")

def argsSection (args : List Arg) (useLong : Bool) : String :=
  let longest := args.foldl (fun m a => max m a.display.length) 2
  "\n".intercalate (args.map (·.helpEntry longest useLong))

def helpText (useLong : Bool) : String :=
  programName ++ " " ++ version ++ "\n" ++ about ++ "\n" ++ "\nUSAGE:" ++ "\n    " ++
    programName ++ " [OPTIONS]\n\n" ++ "FLAGS:\n" ++ argsSection flags useLong ++ "\n\n" ++
    "OPTIONS:\n" ++ argsSection options useLong ++ "\n"

def versionText : String := programName ++ " " ++ version ++ "\n"

/-- The options of a run. -/
structure RunOptions where
  settings : String := "depthsync-settings.json"
  duration : Float := 5
  stallAfter : Option Float := none
  watchdogTimeout : Option Float := none
  width : Nat := 64
  height : Nat := 48
  fps : Nat := 30

/-- What a command line asks for. -/
inductive Command where
  | help (long : Bool)
  | version
  | run (o : RunOptions)
  | invalid (message : String)

def isSwitch (s : String) : Bool := s.startsWith "-" && s.length > 1

/-- Reading state: the options given so far with their values, if any (latest first),
and whether `--` was seen. -/
structure Reading where
  given : List (String × Option String) := []
  rest : Bool := false

/-- The value of an option that needs one, from text attached to it or the next
argument: the value and the arguments after it. -/
def takeValue (attached : Option String) (args : List String) :
    Option String × List String :=
  match attached with
  | some v => (some (String.ofList (v.toList.dropWhile (· = '='))), args)
  | none =>
    match args with
    | next :: rest => if isSwitch next then (none, args) else (some next, rest)
    | [] => (none, [])

def Reading.give (r : Reading) (name : String) (v : Option String) : Reading :=
  { r with given := (name, v) :: r.given }

def readArgs : Nat → Reading → List String → Except Command Reading
  | 0, r, _ => .ok r
  | _, r, [] => .ok r
  | fuel + 1, r, arg :: args =>
    if r.rest then .error (.invalid ("unexpected argument " ++ arg))
    else if arg = "--" then readArgs fuel { r with rest := true } args
    else if arg.startsWith "--" then
      let body := String.ofList (arg.toList.dropWhile (· = '-'))
      let (name, attached) := match body.splitOn "=" with
        | [n] => (n, none)
        | n :: _ => (n, some (String.ofList (body.toList.drop n.length)))
        | [] => (body, none)
      if name = "help" then .error (.help true)
      else if name = "version" then .error .version
      else if options.any (·.long == name) then
        let (v, args) := takeValue attached args
        readArgs fuel (r.give name v) args
      else .error (.invalid ("unknown argument " ++ arg))
    else if isSwitch arg then
      match arg.toList.drop 1 with
      | [] => .error (.invalid ("unexpected argument " ++ arg))
      | c :: rest =>
        if c = 'h' then .error (.help false)
        else if c = 'V' then .error .version
        else match options.find? (·.short == some c) with
          | some o =>
            let attached := if rest.isEmpty then none else some (String.ofList rest)
            let (v, args) := takeValue attached args
            readArgs fuel (r.give o.long v) args
          | none => .error (.invalid ("unknown argument -" ++ c.toString))
    else .error (.invalid ("unexpected argument " ++ arg))

def floatValue (name v : String) : Except String Float :=
  match Decimal.parseFloat? v with
  | some x => .ok x
  | none => .error ("invalid value " ++ v ++ " for " ++ name)

def wordValue (name v : String) : Except String Nat :=
  match Decimal.parseWord? v with
  | some n => .ok n
  | none => .error ("invalid value " ++ v ++ " for " ++ name)

/-- The value an option was read with: the one given, or its default when it was given
without one. -/
def valueOf (given : List (String × Option String)) (name : String) :
    Except String (Option String) :=
  match given.lookup name with
  | none => .ok none
  | some (some v) => .ok (some v)
  | some none =>
    match (options.find? (·.long == name)).bind (·.default) with
    | some d => .ok (some d)
    | none => .error ("no value for " ++ name)

def RunOptions.ofReading (r : Reading) : Except String RunOptions := do
  let given := r.given.reverse
  if let some (n, _) := given.find? fun (n, _) => (given.filter (·.1 == n)).length > 1 then
    throw (n ++ " given more than once")
  let get := valueOf given
  let mut o : RunOptions := {}
  if let some v := ← get "settings" then o := { o with settings := v }
  if let some v := ← get "duration" then o := { o with duration := ← floatValue "duration" v }
  if let some v := ← get "stall-after" then
    o := { o with stallAfter := some (← floatValue "stall-after" v) }
  if let some v := ← get "watchdog-timeout" then
    o := { o with watchdogTimeout := some (← floatValue "watchdog-timeout" v) }
  if let some v := ← get "width" then o := { o with width := ← wordValue "width" v }
  if let some v := ← get "height" then o := { o with height := ← wordValue "height" v }
  if let some v := ← get "fps" then o := { o with fps := ← wordValue "fps" v }
  return o

def parse (args : List String) : Command :=
  match readArgs (args.length + 1) {} args with
  | .error c => c
  | .ok r =>
    match RunOptions.ofReading r with
    | .ok o => .run o
    | .error m => .invalid m

end Rgbd.Cli

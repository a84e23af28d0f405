import Parley.Reading.Basic
import Parley.Json.Reader
import Parley.Text.Case
import Parley.Text.Search

/-!
# Configuration

How the program is set up: which services it uses, where it keeps automations, and the limits of runs and
previews. Settings come from environment variables and from values given directly, which win; the rest
have defaults.

The name of a variable may be written in any case. A group of settings may be given as a whole, as a JSON
text, and each of its members by a name made of the group's name, two underscores and its own; a member
given alone wins.
-/

namespace Parley

open Reading

/-- Which services a program uses. -/
inductive ServiceMode where
  /-- Simulated ones. -/
  | simulator
  /-- Those on the network as far as they are configured, and simulated ones for the rest. -/
  | hybrid
  /-- The same, with a warning for each one that is not configured. -/
  | real
  deriving DecidableEq, Repr

namespace ServiceMode

/-- The word for a mode. -/
def word : ServiceMode → String
  | simulator => "simulator"
  | hybrid => "hybrid"
  | real => "real"

/-- Reads a mode. -/
def reader : Reader ServiceMode
  | .str "simulator" => ok .simulator
  | .str "hybrid" => ok .hybrid
  | .str "real" => ok .real
  | _ => fail .unknownWord

end ServiceMode

/-- The limits of runs. -/
structure RunLimits where
  maxSteps : Int := 50
  /-- Whether a graph that nothing starts is entered at all of its steps. -/
  everyStep : Bool := false

/-- Reads the limits of runs. -/
def RunLimits.reader : Reader RunLimits :=
  Reader.record .notRecord fun fs =>
    RunLimits.mk
      <$> fs.withDefault "max_steps" 50 Reader.whole
      <*> fs.withDefault "legacy_entry_fallback" false Reader.truth

/-- Writes the limits of runs. -/
def RunLimits.write (l : RunLimits) : Value :=
  .dict [("max_steps", .int l.maxSteps), ("legacy_entry_fallback", .bool l.everyStep)]

/-- The pace of previews, in seconds. -/
structure Pace where
  shortestPause : Float := 0.8
  longestPause : Float := 2.0
  longestDelay : Float := 5.0

/-- Reads the pace of previews. -/
def Pace.reader : Reader Pace :=
  Reader.record .notRecord fun fs =>
    Pace.mk
      <$> fs.withDefault "typing_delay_min" 0.8 Reader.floating
      <*> fs.withDefault "typing_delay_max" 2.0 Reader.floating
      <*> fs.withDefault "max_delay_seconds" 5.0 Reader.floating

/-- Writes the pace of previews. -/
def Pace.write (p : Pace) : Value :=
  .dict [("typing_delay_min", .float p.shortestPause), ("typing_delay_max", .float p.longestPause),
    ("max_delay_seconds", .float p.longestDelay)]

/-! ### Paths -/

/-- A path in the file system, without empty parts and parts that stay where they are. -/
def normalPath (s : String) : String :=
  let slashes := (s.toList.takeWhile (· == '/')).length
  let root := if slashes = 2 then "//" else if 0 < slashes then "/" else ""
  let parts := ((Text.pieces '/' s.toList).map String.ofList).filter fun p => p != "" && p != "."
  let path := root ++ Text.joinWith "/" parts
  if path = "" then "." else path

/-- Reads a path. -/
def pathReader : Reader String
  | .str s => ok (normalPath s)
  | _ => fail .notPath

/-! ### All settings -/

/-- How the program is set up. -/
structure Configuration where
  logLevel : String := "INFO"
  mode : ServiceMode := .simulator
  /-- Where the service that writes replies is. -/
  replyUrl : Option String := none
  /-- The key by which that service knows its caller. -/
  replyKey : Option String := none
  /-- Whether calls may go out to the network. -/
  callsEnabled : Bool := false
  /-- How long a call may take, in seconds. -/
  callTimeout : Float := 30.0
  /-- Where automations are kept. -/
  directory : String := "automations"
  limits : RunLimits := {}
  pace : Pace := {}

/-- Why a configuration cannot be made. -/
inductive ConfigurationError where
  /-- A group is given as a whole, but not as a JSON text. -/
  | notJson (group : String)
  | unreadable (issues : List Issue)

/-- The error in words, for those that have some. -/
def ConfigurationError.message? : ConfigurationError → Option String
  | notJson group =>
    some ("error parsing value for field \"" ++ group ++ "\" from source \"EnvSettingsSource\"")
  | unreadable _ => none

namespace Configuration

/-- Reads a configuration. -/
def reader : Reader Configuration :=
  Reader.record .notRecord fun fs =>
    Configuration.mk
      <$> fs.withDefault "log_level" "INFO" Reader.text
      <*> fs.withDefault "connector_mode" .simulator ServiceMode.reader
      <*> fs.textOrNull "ai_service_url"
      <*> fs.textOrNull "ai_service_api_key"
      <*> fs.withDefault "http_calls_enabled" false Reader.truth
      <*> fs.withDefault "http_timeout" 30.0 Reader.floating
      <*> fs.withDefault "data_dir" "automations" pathReader
      <*> fs.withDefault "execution" {} RunLimits.reader
      <*> fs.withDefault "preview" {} Pace.reader

/-- Writes a configuration. -/
def write (c : Configuration) : Value :=
  .dict [("log_level", .str c.logLevel), ("connector_mode", .str c.mode.word),
    ("ai_service_url", .ofText? c.replyUrl), ("ai_service_api_key", .ofText? c.replyKey),
    ("http_calls_enabled", .bool c.callsEnabled), ("http_timeout", .float c.callTimeout),
    ("data_dir", .str c.directory), ("execution", c.limits.write), ("preview", c.pace.write)]

/-! ### Where settings come from -/

/-- The names of settings that stand alone. -/
def plainNames : List String :=
  ["log_level", "connector_mode", "ai_service_url", "ai_service_api_key", "http_calls_enabled",
    "http_timeout", "data_dir"]

/-- The names of groups, each with those of its members. -/
def groups : List (String × List String) :=
  [("execution", ["max_steps", "legacy_entry_fallback"]),
    ("preview", ["typing_delay_min", "typing_delay_max", "max_delay_seconds"])]

/-- Cuts the characters at double underscores. -/
def cutDouble (piece : List Char) : List Char → List (List Char)
  | '_' :: '_' :: rest => piece :: cutDouble [] rest
  | c :: rest => cutDouble (piece ++ [c]) rest
  | [] => [piece]

/-- The fields with a value at the end of a path of names, where anything but a dictionary in the way stays
as it is. -/
def putAt (value : Value) : List String → Fields → Fields
  | [], fs => fs
  | [name], fs => Dict.put fs name value
  | name :: path, fs =>
    match Dict.get? fs name with
    | none => Dict.put fs name (.dict (putAt value path []))
    | some (.dict inner) => Dict.put fs name (.dict (putAt value path inner))
    | some _ => fs

/-- The members of a group that are given alone. -/
def membersGiven (env : Dict String) (group : String) : Fields :=
  env.foldl (fun fs entry =>
    let start := (group ++ "__").toList
    if start.isPrefixOf entry.1.toList then
      putAt (.str entry.2)
        ((cutDouble [] (entry.1.toList.drop start.length)).map String.ofList) fs
    else fs) []

/-- The fields of `early` with those of `late` put into them, where dictionaries under one name are brought
together. The depth bounds how far down. -/
def deepMerge : Nat → Fields → Fields → Fields
  | 0, early, late => Dict.merge early late
  | depth + 1, early, late =>
    late.foldl (fun fs entry =>
      match Dict.get? fs entry.1, entry.2 with
      | some (.dict a), .dict b => Dict.put fs entry.1 (.dict (deepMerge depth a b))
      | _, v => Dict.put fs entry.1 v) early

/-- How deep settings are nested at most. -/
def depth : Nat := 64

/-- The fields of a group with the names of its members in the case in which they are known. -/
def knownCase (members : List String) (fs : Fields) : Fields :=
  .ofPairs (fs.map fun entry =>
    let name := Text.lower entry.1
    (if members.contains name then name else entry.1, entry.2))

/-- What the environment says of a group, if anything. -/
def groupGiven (env : Dict String) (group : String) (members : List String) :
    Except ConfigurationError (Option Value) :=
  let alone := membersGiven env group
  match env.get? group with
  | none => .ok (if alone.isEmpty then none else some (.dict (knownCase members alone)))
  | some text =>
    match Json.read? text with
    | none => .error (.notJson group)
    | some .null => .ok none
    | some (.dict fs) => .ok (some (.dict (knownCase members (deepMerge depth fs alone))))
    | some v => .ok (some v)

/-- All that the environment says. -/
def environmentFields (env : Dict String) : Except ConfigurationError Fields := do
  let env : Dict String := .ofPairs (env.map fun entry => (Text.lower entry.1, entry.2))
  let plain := plainNames.filterMap fun name => (env.get? name).map fun v => (name, Value.str v)
  let given ← groups.filterMapM fun group => do
    pure ((← groupGiven env group.1 group.2).map fun v => (group.1, v))
  pure (plain ++ given)

/-- The configuration made of an environment and of values given directly. -/
def ofEnvironment (env : Dict String) (values : Fields) : Except ConfigurationError Configuration := do
  let fields ← environmentFields env
  (reader (.dict (deepMerge depth fields values))).toExcept.mapError .unreadable

end Configuration

end Parley

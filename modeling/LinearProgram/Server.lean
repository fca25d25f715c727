/-
  Server — the inspection server: what it says about itself, what it is started with, and what it
  asks its transport for.

  1. **Introduction** — the server's name, its instructions and its tools.

  2. **Transports** — a transport is asked for by a request with named options.

  3. **Arguments** — switches choose the transport and override what the configuration says of
     the address to serve on and of the level. An empty host and the number 0 override nothing.

  4. **Running** — the transport is asked for once; being interrupted is an orderly end.
-/

import LinearProgram.CommandLine
import LinearProgram.Decimal.Literal
import LinearProgram.Inspection
import LinearProgram.Log.Setup
import LinearProgram.Settings.Load

namespace LinearProgram.Server

/-! ## Introduction -/

/-- The server's name. -/
def name : String := "lp-mcp"

/-- The instructions that the server gives unless it is given others. -/
def standardInstructions : String :=
  "\n".intercalate
    [ "Use lp-mcp to check LP (.lp) models before handing them to a solver. "
        ++ "Call inspect_lp with LP text (or inspect_lp_file with a path) and report the "
        ++ "objective, constraint and variable counts from the structured payload. If the payload is not "
        ++ "valid, fix the reported line and call the tool again.",
      "",
      "LP Format Guide:",
      "",
      "- Objective: Begin with \"Maximize\" or \"Minimize\" on its own line, followed by one or "
        ++ "more named objectives, e.g. \"obj: 3 x1 + 4 x2\".",
      "- Constraints: Introduced by \"Subject To\". Each constraint has an optional name and "
        ++ "colon, a linear expression, a relational operator (<=, >=, =) and a numeric "
        ++ "right-hand side, e.g. \"c1: 0.333 x1 + 2 x2 <= 10\". A long expression may continue "
        ++ "on the following lines.",
      "- Bounds: Introduced by \"Bounds\". One bound per line: \"x1 <= 40\", \"2 <= x4\", "
        ++ "\"0 <= x1 <= 40\", \"x3 = 5\" or \"x2 free\". Bounds may only name variables used in "
        ++ "the objective or constraints.",
      "- Variable Types: \"Binaries\" and \"Generals\" sections list binary and integer variables "
        ++ "separated by whitespace.",
      "- End: The model ends with the line \"End\".",
      "- Comments start with a backslash and run to the end of the line.",
      "" ]

/-- The instructions of a server that may have been given some of its own. -/
def instructions (own : Option Text) : Text :=
  match own with
  | some (c :: cs) => c :: cs
  | _ => standardInstructions.toList

/-! ## Transports -/

/-- How the server talks to its clients. -/
inductive Transport where
  | standardStreams (level : Text)
  | http (host portNumber : Setting) (level : Text)

/-- The name of a transport's request. -/
def Transport.request : Transport → String
  | standardStreams _ => "run_stdio_async"
  | http .. => "run_http_async"

/-- The options of a transport's request, in the order of their names. -/
def Transport.options : Transport → List (String × Setting)
  | standardStreams level => [("log_level", .text level), ("show_banner", .bool false)]
  | http host portNumber level =>
    [ ("host", host),
      ("log_level", .text level),
      ("path", .text "/mcp".toList),
      ("port", portNumber),
      ("show_banner", .bool false),
      ("transport", .text "streamable-http".toList) ]

/-- What the log says before a transport is asked for. -/
def Transport.announcement : Transport → String
  | standardStreams _ => "Starting stdio MCP server"
  | http host portNumber _ =>
    let place := Cause.verbatim (host.inMessage ++ ':' :: portNumber.inMessage)
    s!"Starting HTTP MCP server on {place}"

/-! ## Arguments -/

/-- The switches of the server. -/
inductive Key where
  | standardStreams
  | http
  | host
  | portNumber
  | logLevel
  | configuration
deriving DecidableEq, Repr

/-- What the server can be told. -/
def usage : CommandLine.Usage Key where
  switches :=
    [ { key := .standardStreams, spelling := "--stdio".toList },
      { key := .http, spelling := "--http".toList },
      { key := .host, spelling := "--http-host".toList, takesValue := true },
      { key := .portNumber, spelling := "--http-port".toList, takesValue := true },
      { key := .logLevel, spelling := "--log-level".toList, takesValue := true },
      { key := .configuration, spelling := "--config".toList, takesValue := true } ]

/-- What the server was told. -/
structure Arguments where
  standardStreams : Bool := false
  http : Bool := false
  host : Option Text := none
  portNumber : Option Int := none
  logLevel : Option Text := none
  configuration : Settings.Choice := .standard
deriving DecidableEq

/-- The most digits that the number to serve on may be written with. -/
def longestPortNumber : Nat := 4300

/-- Takes a switch. The two transports exclude each other, and the number to serve on must be
    a whole one. -/
def Arguments.take (key : Key) (value : Option Text) (a : Arguments) :
    Except CommandLine.Refusal Arguments :=
  match key with
  | .standardStreams => if a.http then .error .misuse else .ok { a with standardStreams := true }
  | .http => if a.standardStreams then .error .misuse else .ok { a with http := true }
  | .host => .ok { a with host := value }
  | .portNumber =>
    match value with
    | none => .ok { a with portNumber := none }
    | some t =>
      match Decimal.Integer.read? longestPortNumber t with
      | some n => .ok { a with portNumber := some n }
      | none => .error .misuse
  | .logLevel => .ok { a with logLevel := value }
  | .configuration => .ok { a with configuration := .ofValue value }

/-- Reads the arguments. -/
def Arguments.read (arguments : List Text) : Except CommandLine.Refusal Arguments :=
  CommandLine.read usage (fun _ a => a) Arguments.take {} arguments

/-! ## Running -/

/-- The host to serve on if none is set. -/
def standardHost : Setting := .text "127.0.0.1".toList

/-- The number to serve on if none is set. -/
def standardPortNumber : Setting := .integer 8765

/-- The host that arguments and settings come to. -/
def host (a : Arguments) (settings : Settings) : Setting :=
  Setting.orElse (a.host.map .text) ((settings.get? "http_host").getD standardHost)

/-- The number to serve on that arguments and settings come to. -/
def portNumber (a : Arguments) (settings : Settings) : Setting :=
  Setting.orElse (a.portNumber.map .integer)
    ((settings.get? "http_port").getD standardPortNumber)

/-- The transport that arguments and settings come to. -/
def transport (a : Arguments) (settings : Settings) (level : Text) : Transport :=
  if a.http then .http (host a settings) (portNumber a settings) level
  else .standardStreams level

/-- How a run ends. -/
inductive Ending where
  | refused (refusal : CommandLine.Refusal)
  | failed (failure : Failure)
  | done (status : Nat)

/-- A run of the server: how it ended, which transport it asked for, and its log. -/
structure Run where
  ending : Ending
  asked : Option Transport := none
  log : List Log.Record := []

/-- A record of a run. -/
def told (message : String) : Log.Record := ⟨Log.serverChannel, .info, message⟩

/-- The run that asks for a transport; it may be interrupted. -/
def serve (interrupted : Bool) (t : Transport) (warnings : List Log.Record) : Run where
  ending := .done 0
  asked := some t
  log := warnings ++ told t.announcement ::
    (if interrupted then [told "Server interrupted by user"] else [])

/-- Runs the server with arguments that were read. -/
def ofArguments (reader : Settings.Reader) (store : Store) (standard : Settings.Standard)
    (interrupted : Bool) (a : Arguments) : Run :=
  match Settings.loadOrDefaults reader store standard a.configuration Settings.serverPart
      Log.serverChannel with
  | (.error failure, warnings) => { ending := .failed failure, log := warnings }
  | (.ok settings, warnings) =>
    match Log.setup settings a.logLevel with
    | .error failure => { ending := .failed failure, log := warnings }
    | .ok setup => serve interrupted (transport a settings setup.level) warnings

/-- Runs the server. -/
def run (reader : Settings.Reader) (store : Store) (standard : Settings.Standard)
    (interrupted : Bool) (arguments : List Text) : Run :=
  match Arguments.read arguments with
  | .error refusal => { ending := .refused refusal }
  | .ok a => ofArguments reader store standard interrupted a

end LinearProgram.Server

/-
  Load — the settings of a program, from the configuration that it was given or from the one it
  comes with.

  1. **Configurations** — a configuration is a mapping of parts, one for each program. A part, or a
     whole configuration, that counts as nothing has no settings; so has a part that is not there.
     How configurations are written down is not laid down here: a program comes with a reader of
     them.

  2. **Which one** — the configuration at a path that was given, which must be there; otherwise the
     one that the program comes with, which may be missing. A program may also be told to take
     a configuration and not which one.

  3. **Defaults** — `loadOrDefaults` makes a missing configuration a warning.
-/

import LinearProgram.Failure
import LinearProgram.Log
import LinearProgram.Settings.Basic
import LinearProgram.Store.Path

namespace LinearProgram.Settings

/-! ## Configurations -/

/-- The settings of one part of a configuration. -/
def part (name : Text) (configuration : Setting) : Except Failure Settings :=
  if configuration.isVoid then .ok []
  else
    match configuration with
    | .mapping parts =>
      match Setting.orElse (named? parts name) (.mapping []) with
      | .mapping settings => .ok settings
      | _ => .error (.partNotMapping name)
    | _ => .error .configurationNotMapping

/-- What reads the configuration in the octets of a file. -/
abbrev Reader := Octets → Except Failure Setting

/-- The configuration at a path where there is one. -/
def atPath (reader : Reader) (store : Store) (path : Text) : Except Failure Setting :=
  match store path with
  | .error refusal => .error (.configurationRefused path refusal)
  | .ok octets => reader octets

/-! ## Which one -/

/-- A setting of a name. -/
def setting (name : String) (value : Setting) : Scalar × Setting := (.text name.toList, value)

/-- A text as a setting. -/
def word (s : String) : Setting := .text s.toList

/-- The name of the part with the settings for reports. -/
def reportPart : Text := "lp_reader".toList

/-- The name of the part with the settings of the inspection server. -/
def serverPart : Text := "mcp_server".toList

/-- The configuration that the programs come with. -/
def shipped : Setting :=
  .mapping
    [ (.text reportPart, .mapping
        [ setting "log_level" (word "INFO"),
          setting "log_format" (word "[%(levelname)s] %(message)s") ]),
      (.text serverPart, .mapping
        [ setting "http_host" (word "127.0.0.1"),
          setting "http_port" (.integer 8765),
          setting "log_level" (word "INFO") ]) ]

/-- Where the configuration is taken from if none is given. -/
inductive Standard where
  /-- The one that the programs come with. -/
  | shipped
  /-- A file, which may be missing. -/
  | file (path : Text)

/-- The configuration that a program is told to take. -/
inductive Choice where
  | standard
  | path (t : Text)
  /-- One that is not named. -/
  | nameless
deriving DecidableEq

/-- The choice of a path, or of the standard configuration if there is none. -/
def Choice.orStandard : Option Text → Choice
  | some t => path t
  | none => standard

/-- The choice that a switch makes, which may have lost its value. -/
def Choice.ofValue : Option Text → Choice
  | some t => path t
  | none => nameless

/-- The path of a choice. -/
def Choice.path? : Choice → Option Text
  | path t => some t
  | _ => none

/-- The configuration of a choice; `none` where the standard one is missing. -/
def configuration (reader : Reader) (store : Store) (standard : Standard) (choice : Choice) :
    Except Failure (Option Setting) :=
  match choice, standard with
  | .nameless, _ => .error .configurationNameless
  | .path path, _ =>
    match store.occupied? (Path.normal path) with
    | .error refusal => .error (.configurationRefused (Path.normal path) refusal)
    | .ok false => .error (.configurationMissing (Path.normal path))
    | .ok true => (atPath reader store (Path.normal path)).map some
  | .standard, .shipped => .ok (some shipped)
  | .standard, .file path =>
    match store.occupied? (Path.normal path) with
    | .error refusal => .error (.configurationRefused (Path.normal path) refusal)
    | .ok false => .ok none
    | .ok true => (atPath reader store (Path.normal path)).map some

/-- Loads one part of the configuration. -/
def load (reader : Reader) (store : Store) (standard : Standard) (choice : Choice) (name : Text) :
    Except Failure Settings :=
  match configuration reader store standard choice with
  | .error failure => .error failure
  | .ok none => .ok []
  | .ok (some c) => part name c

/-! ## Defaults -/

/-- The warning about a configuration that is missing. -/
def missingWarning (channel : String) (given : Text) : Log.Record :=
  ⟨channel, .warning, s!"Config file not found: {Cause.verbatim given}, using defaults"⟩

/-- Loads one part of the configuration; if the configuration is missing there are no settings but a
    warning. -/
def loadOrDefaults (reader : Reader) (store : Store) (standard : Standard) (choice : Choice)
    (name : Text) (channel : String) : Except Failure Settings × List Log.Record :=
  match load reader store standard choice name with
  | .error (.configurationMissing _) =>
    (.ok [], [missingWarning channel (choice.path?.getD [])])
  | loaded => (loaded, [])

end LinearProgram.Settings

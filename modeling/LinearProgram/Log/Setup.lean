/-
  Setup — which records of the log are shown, and how.

  1. **Resolution** — a level that the caller asks for wins over the one that is set; an empty wish
     is none. Levels are compared in upper case. Without a level it is `INFO`; without a format it
     is the level between brackets and the message.

  2. **Setup** — the format must be a text with a field in it, and the level one of eight names.
     Of two things that are wrong the format is the one that is complained of.
-/

import LinearProgram.Failure
import LinearProgram.Log.Template
import LinearProgram.Settings.Basic
import LinearProgram.Text.Case

namespace LinearProgram.Log

/-! ## Resolution -/

/-- The line format if none is set. -/
def standardFormat : Text := "[%(levelname)s] %(message)s".toList

/-- A line of nothing but the message. -/
def messageFormat : Text := "%(message)s".toList

/-- The level and the format that a caller's wish and the settings come to. -/
structure Wish where
  level : Text
  format : Setting

/-- What a wish for a level, if there is one, and the settings come to. -/
def resolve (settings : Settings) (level? : Option Text) : Except Failure Wish :=
  let format := (settings.get? "log_format").getD (.text standardFormat)
  match (level?.getD []), (settings.get? "log_level").getD (.text "INFO".toList) with
  | c :: cs, _ => .ok ⟨Text.upper (c :: cs), format⟩
  | [], .text level => .ok ⟨level.upper, format⟩
  | [], _ => .error .levelNotText

/-! ## Setup -/

/-- The names of levels, and the least rank that each one shows. -/
def levelNames : List (Text × Nat) :=
  [ ("CRITICAL".toList, 50), ("FATAL".toList, 50), ("ERROR".toList, 40), ("WARN".toList, 30),
    ("WARNING".toList, 30), ("INFO".toList, 20), ("DEBUG".toList, 10), ("NOTSET".toList, 0) ]

/-- Which records are shown, and how. -/
structure Setup where
  /-- The level's name, -/
  level : Text
  /-- and the least rank that it shows. -/
  rank : Nat
  template : Template

/-- The template that a setting is; one that counts as nothing is the mere message. -/
def template (format : Setting) : Except Failure Template :=
  if format.isVoid then .ok (.ofText messageFormat)
  else
    match format with
    | .text t => if holdsField t then .ok (.ofText t) else .error (.formatWithoutField t)
    | _ => .error .formatNotText

/-- Sets up the log. -/
def setup (settings : Settings) (level? : Option Text) : Except Failure Setup :=
  match resolve settings level? with
  | .error failure => .error failure
  | .ok wish =>
    match template wish.format with
    | .error failure => .error failure
    | .ok template =>
      match levelNames.lookup wish.level with
      | none => .error (.unknownLevel wish.level)
      | some rank => .ok ⟨wish.level, rank, template⟩

/-- The lines that are shown of a log. -/
def Setup.render (s : Setup) (records : List Record) : Text :=
  (atLeast s.rank records).flatMap fun r => s.template.render r ++ ['\n']

end LinearProgram.Log

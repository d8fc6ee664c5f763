import ScriptHost.Notice

/-!
# Log records

A record is what one log line tells; `LogRecord.render` writes it.  A message cannot steer the
terminal it is shown on: the controls that terminals act upon are written by their numbers.
-/

namespace ScriptHost

structure LogRecord where
  level : Level
  /-- What the line is attributed to. -/
  target : String
  message : String
deriving DecidableEq, Repr

namespace LogRecord

/-- The record of a notice. -/
def ofNotice (notice : Notice) : LogRecord where
  level := notice.level
  target := notice.target
  message := notice.message

/-- A character as it stands in a log line. -/
def shownChar (c : Char) : String :=
  let number := String.ofList (Nat.toDigits 16 c.toNat)
  if c = '\x07' || c = '\x08' || c = '\x0c' then "\\x0" ++ number
  else if c = '\x1b' || c = '\x7f' then "\\x" ++ number
  else if 0x80 ≤ c.toNat && c.toNat < 0xA0 then "\\u\x7b" ++ number ++ "\x7d"
  else c.toString

/-- A message as it stands in a log line. -/
def shown (message : String) : String :=
  String.join (message.toList.map shownChar)

/-- The line: the time, the level in a column of five, the target and the message, which may go on
over further lines. -/
def render (record : LogRecord) (time : String) : String :=
  let level := record.level.name
  let margin := String.ofList (List.replicate (5 - level.length) ' ')
  time ++ " " ++ margin ++ level ++ " " ++ record.target ++ ": " ++ shown record.message ++ "\n"

end LogRecord

end ScriptHost

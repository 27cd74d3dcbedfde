/-!
# Levels

How much a message matters, as a number, and the names of the usual numbers.
-/

namespace NativeDeps.Logging

/-- How much a message matters. -/
abbrev Level := Int

namespace Level

def debug : Level := 10

def info : Level := 20

/-- Success matters more than progress, and less than a warning. -/
def success : Level := 25

def warning : Level := 30

def error : Level := 40

def critical : Level := 50

def name (level : Level) : String :=
  if level = debug then "DEBUG"
  else if level = info then "INFO"
  else if level = success then "SUCCESS"
  else if level = warning then "WARNING"
  else if level = error then "ERROR"
  else if level = critical then "CRITICAL"
  else if level = 0 then "NOTSET"
  else "Level " ++ toString level

def threshold (isVerbose : Bool) : Level :=
  if isVerbose then debug else info

end Level

end NativeDeps.Logging

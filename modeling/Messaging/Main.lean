import Messaging.RoundTrip.Run

/-!
# The command line program
-/

def main (args : List String) : IO UInt32 := do
  let exit := Messaging.RoundTrip.exit args {}
  exit.printed.forM IO.println
  exit.fatal.forM IO.eprintln
  return exit.code.toUInt32

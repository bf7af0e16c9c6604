import Scriptlet.Terminal

/-! The command line. -/

def main (arguments : List String) : IO UInt32 := do
  pure (UInt32.ofNat (← Scriptlet.Command.execute Scriptlet.Terminal.host arguments))

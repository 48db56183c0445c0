import ServiceDiscovery.Browse

/-!
# The command line

Browses where the groups are joined if no interface is asked for, and nothing
arrives.
-/

def main (arguments : List String) : IO UInt32 := do
  let outcome := ServiceDiscovery.Browse.run (fun owned _ => owned.isNone) [] arguments
  IO.print outcome.output
  return outcome.exitCode

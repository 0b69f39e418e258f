import GameServer.Launch.Start

/-! The command line. This program has no network of its own, so that every address counts as one
that the machine does not have. -/

open GameServer

def main (arguments : List String) : IO UInt32 := do
  let logging := (← IO.getEnv "RUST_LOG").isSome
  let start := Launch.launch (fun _ _ => some .addressNotAvailable) logging arguments
  for line in start.lines do
    IO.eprintln line
  IO.print start.fate.output
  if let some complaint := start.fate.complaint then
    IO.eprintln complaint
  return UInt32.ofNat (start.fate.exitCode.getD 0)

import Cruciverb.CommandLine
import Std.Time

open Cruciverb Cruciverb.CommandLine

def readSource (path : String) : IO Source := do
  try
    if path = "-" then
      let stdin ← IO.getStdin
      return .text (← stdin.readToEnd)
    else
      return .text (← IO.FS.readFile path)
  catch e =>
    match e with
    | .noFileOrDirectory _ code _ =>
      return .unreadable path ("No such file or directory (os error " ++ toString code ++ ")")
    | e => return .unreadable path (toString e)

def main (arguments : List String) : IO UInt32 := do
  let read := (readArguments? {} arguments).bind fun a =>
    (Options.read? a.output a.pubdate).map fun options => (a.path.getD "-", options)
  match read with
  | none =>
    IO.eprintln usage
    return 2
  | some (path, options) =>
    let now ← Std.Time.PlainDate.now
    let today : PublicationDate := ⟨now.year, now.month.toNat, now.day.toNat⟩
    match run today.text options (← readSource path) with
    | .error _ => return 101
    | .ok outcome =>
      IO.print outcome.stdout
      IO.eprint outcome.stderr
      return outcome.exit.toUInt32

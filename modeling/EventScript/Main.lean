import Std.Time
import EventScript.CommandLine.Session

/-!
# The program

Files, the environment, the terminal and the clock of the system, around the sessions of
`EventScript.CommandLine`.
-/

namespace EventScript.CommandLine

/-- Why the system refuses to access a file. -/
def fileError : IO.Error → FileError
  | .noFileOrDirectory .. => .missing
  | .alreadyExists .. => .alreadyExists
  | .inappropriateType _ 20 _ => .notDirectory
  | .inappropriateType _ 21 _ => .isDirectory
  | .userError _ => .notText
  | e => .other (toString e)

/-- Do something with a file. -/
def attempt {α : Type} (act : IO α) : IO (Except FileError α) := do
  try
    return .ok (← act)
  catch e =>
    return .error (fileError e)

/-- The files of the system. -/
def systemFiles : Files IO where
  read path := attempt (IO.FS.readFile path)
  openLog path := attempt do
    let _ ← IO.FS.Handle.mk path .append

/-- The settings in the environment of the program. -/
def systemEnvironment : IO Environment := do
  return ⟨(← IO.getEnv "EVENTWEAVE_DEBUG").isSome, ← IO.getEnv "EVENTWEAVE_COMMANDS_PER_TICK"⟩

/-- A clock that starts at the local time. -/
def systemClock : IO Clock := do
  let now ← Std.Time.PlainDateTime.now
  return .start now.toWallTime.toMilliseconds.val

/-- A supply that starts at random. -/
def systemSupply : IO Supply := do
  let bytes ← IO.getRandomBytes 8
  return .seeded (UInt64.ofNat (bytes.foldl (fun n b => 256 * n + b.toNat) 0))

/-- Print text and text about errors. -/
def print (output errors : String) : IO Unit := do
  let stdout ← IO.getStdout
  stdout.putStr output
  stdout.flush
  (← IO.getStderr).putStr errors

/-- Leave behind what a session ends with. A program that is killed has the code of an abort. -/
def Ending.leave (e : Ending) : IO UInt8 := do
  print e.output e.errors
  return e.code.getD 134

/-- Drive a run to its end. -/
partial def drive (move : Guarded Move) : IO UInt8 := do
  match move with
  | .error fault => (Ending.fault fault).leave
  | .ok move =>
    print move.output ""
    match move.course with
    | .pass play => drive play.pass
    | .ask question play => drive (play.take question (← (← IO.getStdin).getLine))
    | .finished => return 0
    | .failed message => (Ending.failure message).leave

/-- Run a session to its end. -/
def conclude : Session → IO UInt8
  | .ended ending => ending.leave
  | .playing page play => do
    print (Play.banner page) ""
    drive play.pass

end EventScript.CommandLine

open EventScript.CommandLine in
/-- The program. -/
def main (arguments : List String) : IO UInt32 := do
  let session ← session systemFiles arguments (← systemEnvironment) (← systemClock)
    (← systemSupply)
  return (← conclude session).toUInt32

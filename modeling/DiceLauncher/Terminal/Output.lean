import DiceLauncher.Log

/-!
# Output

What a run puts out, piece by piece: text for standard output, and remarks and log records for
the error stream. The time stamp of a record is not part of it; it is given when the
record is written.
-/

namespace DiceLauncher

/-- A piece of output. -/
inductive Output
  /-- Text for standard output. -/
  | printed (text : String)
  /-- Text for the error stream. -/
  | remarked (text : String)
  /-- A record for the log, on the error stream. -/
  | logged (record : Log.Record)
  deriving DecidableEq, Repr

namespace Output

/-- What a piece adds to standard output. -/
def onOutput : Output → String
  | printed text => text
  | _ => ""

/-- What a piece adds to the error stream at a time. -/
def onError (time : String) : Output → String
  | printed _ => ""
  | remarked text => text
  | logged record => record.line time

/-- Whether a piece is put out when debug records are wanted or not. -/
def isWanted (debug : Bool) : Output → Bool
  | logged record => debug || record.level != .debug
  | _ => true

/-- What pieces put on standard output. -/
def allOnOutput (pieces : List Output) : String := String.join (pieces.map onOutput)

/-- What pieces put on the error stream, all at the same time. -/
def allOnError (time : String) (pieces : List Output) : String :=
  String.join (pieces.map (onError time))

end Output

end DiceLauncher

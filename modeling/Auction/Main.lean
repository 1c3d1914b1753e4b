import Auction.Console

/-!
# The command line

The program reads requests from standard input, one JSON object per line, and writes the
answer to each as one JSON line on standard output, flushed at once so that a caller can talk
to it line by line. Blank lines are skipped; the program ends with its input.
-/

namespace Auction

/-- Answers the request lines of `input` on `output` until the input ends. -/
partial def serveLines (input output : IO.FS.Stream) : IO Unit := do
  let line ← input.getLine
  if line.isEmpty then return
  unless line.all Char.isWhitespace do
    output.putStrLn (Console.answerLine line)
    output.flush
  serveLines input output

end Auction

/-- Serves requests from standard input. -/
def main : IO Unit := do
  Auction.serveLines (← IO.getStdin) (← IO.getStdout)

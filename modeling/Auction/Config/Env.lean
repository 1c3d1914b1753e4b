import Auction.Config.Datum

/-!
# Reading environment files

`Env.read` reads `KEY=value` lines into text settings, in order, a later line overriding an
earlier one.

**Lines.** The text is split at `\n`, `\r\n` and a lone `\r`. The first line loses a leading
byte-order mark, and each line is trimmed of white space; empty lines and lines starting with
`#` are skipped. When the value after the first `=` (or else `:`) opens a quote that the line
does not close, the following lines are joined to it, with line breaks, up to the first line
that holds the quote not preceded by a backslash; if none does, the file is refused (`missing quotes`).

**The pattern.** A line must read as
`[export ]KEY (= | : ) [VALUE] [# comment]`, where the key is letters, digits, `_` and `.`, `=`
may have blanks around it and `:` must be followed by one, and the value is single-quoted,
double-quoted, or a run up to `#` or a line break. The choices are tried in the order a
backtracking matcher tries them, the first that reads the whole line winning: a quoted value
closes at its last possible quote, an unquoted one is as long as possible. A line that does not
read so is refused (`line ... doesn't match format`).

**Values.** The value is trimmed and one pair of surrounding quotes dropped. In double quotes
`\n` and `\r` become line breaks and a backslash before any character but `$` is dropped. Outside
single quotes `$NAME`, `${NAME}` (upper-case letters, digits, `_`) stand for the value of an
earlier key of the file or else nothing, and `\$` for a plain `$`.
-/

namespace Auction

namespace Env

/-- Drops white space from both ends. -/
def trim (cs : List Char) : List Char :=
  ((cs.dropWhile Text.isSpace).reverse.dropWhile Text.isSpace).reverse

/-- The lines of a text, split at `\n`, `\r\n` and a lone `\r`; a final line break ends the last
line without starting another. -/
def splitLines (acc : List Char) : List Char → List (List Char)
  | [] => if acc.isEmpty then [] else [acc.reverse]
  | '\r' :: '\n' :: rest => acc.reverse :: splitLines [] rest
  | '\r' :: rest => acc.reverse :: splitLines [] rest
  | '\n' :: rest => acc.reverse :: splitLines [] rest
  | c :: rest => splitLines (c :: acc) rest

/-- The position of the last occurrence of a byte in bytes. -/
def lastIndex (x : Nat) (bs : List Nat) : Option Nat :=
  (bs.zipIdx.filter (·.1 = x)).getLast?.map (·.2)

/-- The quote a line leaves open: the value after its first `=` (or else `:`) starts with a
quote, and the last such quote after it, looked for in the trimmed rest, is missing or has a
backslash at its position counted in the untrimmed value. -/
def openQuote (line : List Char) : Option Char :=
  let sep := match line.findIdx? (· = '=') with
    | some i => some i
    | none => line.findIdx? (· = ':')
  match sep with
  | some i =>
    if i > 0 && i + 1 < line.length then
      match trim (line.drop (i + 1)) with
      | q :: rest =>
        if q = '"' || q = '\'' then
          match lastIndex q.toNat (Text.utf8Bytes (trim rest)) with
          | some j => if (Text.utf8Bytes (q :: rest))[j]? = some 92 then some q else none
          | none => some q
        else none
      | [] => none
    else none
  | none => none

/-- Joins the lines that follow a line with an open quote, up to the first that closes it: one
holding the quote not right after a backslash. Returns the joined line, whether the quote was
closed, and the lines after. -/
def joinQuoted (q : Char) (line : List Char) :
    List (List Char) → List Char × Bool × List (List Char)
  | [] => (line, false, [])
  | l :: rest =>
    let joined := line ++ '\n' :: l
    match (l.zipIdx.filter (·.1 = q)).getLast? with
    | some (_, k) =>
      if k > 0 && l[k - 1]? = some '\\' then joinQuoted q joined rest
      else (joined, true, rest)
    | none => joinQuoted q joined rest

/-! ## The line pattern -/

/-- Whether a character is white space to the pattern: tab, line feed, form feed, carriage
return and space. -/
def isPatternSpace (c : Char) : Bool :=
  c = '\t' || c = '\n' || c.toNat = 12 || c = '\r' || c = ' '

/-- Whether a character may stand in a key. -/
def isKeyChar (c : Char) : Bool := c.isAlphanum || c = '_' || c = '.'

/-- Whether the rest of a line after its value ends it: white space, then at most a comment
that runs to the end without a line break. -/
def endsWell (r : List Char) : Bool :=
  match r.dropWhile isPatternSpace with
  | [] => true
  | '#' :: more => !more.contains '\n'
  | _ => false

/-- A value quoted with `q` at the start of `r`, closed at the last quote after which the line
ends well. -/
def quotedAt (q : Char) : List Char → Option (List Char)
  | c :: rest =>
    if c ≠ q then none
    else
      let closes := ((rest.zipIdx.filter (·.1 = q)).map (·.2)).reverse
      closes.findSome? fun j =>
        if endsWell (rest.drop (j + 1)) then some (q :: rest.take (j + 1)) else none
  | [] => none

/-- The value at the start of `r`, trying single quotes, double quotes, the longest unquoted run
after which the line ends well, and no value. -/
def valueAt (r : List Char) : Option (List Char) :=
  match quotedAt '\'' r with
  | some v => some v
  | none =>
    match quotedAt '"' r with
    | some v => some v
    | none =>
      let run := (r.takeWhile fun c => c ≠ '#' && c ≠ '\n').length
      let lengths := ((List.range run).map (· + 1)).reverse
      match lengths.findSome? fun n => if endsWell (r.drop n) then some (r.take n) else none with
      | some v => some v
      | none => if endsWell r then some [] else none

/-- Where a value may start after a key, in the order tried: `=` with as many blanks before and
after it as may be, then fewer; then `:` with one blank after it, then more. -/
def valueStarts (r : List Char) : List (List Char) :=
  let before := (r.takeWhile isPatternSpace).length
  let equals := ((List.range (before + 1)).reverse).flatMap fun i =>
    match r.drop i with
    | '=' :: more =>
      let after := (more.takeWhile isPatternSpace).length
      ((List.range (after + 1)).reverse).map fun j => more.drop j
    | _ => []
  let colon := match r with
    | ':' :: more =>
      let after := (more.takeWhile isPatternSpace).length
      (List.range after).map fun j => more.drop (j + 1)
    | _ => []
  equals ++ colon

/-- Where a key may start: after `export` and as many blanks as may be, then fewer, and last at
the start of the line. -/
def keyStarts (s : List Char) : List (List Char) :=
  let word := "export".toList
  if word.isPrefixOf s then
    let rest := s.drop word.length
    let blanks := (rest.takeWhile isPatternSpace).length
    (((List.range blanks).reverse).map fun j => rest.drop (j + 1)) ++ [s]
  else [s]

/-- The key and the value a line reads as, if it reads as a setting. -/
def readLine (s : List Char) : Option (String × List Char) :=
  (keyStarts s).findSome? fun st =>
    let run := (st.takeWhile isKeyChar).length
    (((List.range run).map (· + 1)).reverse).findSome? fun n =>
      (valueStarts (st.drop n)).findSome? fun r =>
        (valueAt r).map fun v => (String.ofList (st.take n), v)

/-! ## Values -/

/-- Replaces every occurrence of a two-character sequence, left to right. -/
def replacePair (a b : Char) (into : Char) : List Char → List Char
  | [] => []
  | c :: d :: rest => if c = a && d = b then into :: replacePair a b into rest
    else c :: replacePair a b into (d :: rest)
  | [c] => [c]

/-- Drops each backslash that stands before a character other than `$`. -/
def unescape : List Char → List Char
  | [] => []
  | '\\' :: c :: rest => if c = '$' then '\\' :: unescape (c :: rest) else c :: unescape rest
  | c :: rest => c :: unescape rest

/-- Whether a character may stand in a variable's name. -/
def isNameChar (c : Char) : Bool := ('A' ≤ c && c ≤ 'Z') || c.isDigit || c = '_'

/-- What a variable reference `$…` stands for, given the settings read so far: the value of the
name it holds, or nothing; a reference without a name stands for itself. -/
def substitute (env : List (String × String)) (ref : List Char) : List Char :=
  let afterDollar := ref.drop 1
  let name := ((match afterDollar with
    | '{' :: r => r
    | r => r).takeWhile isNameChar)
  let name := if name.isEmpty then (afterDollar.takeWhile isNameChar) else name
  if name.isEmpty then ref
  else ((env.find? (·.1 == String.ofList name)).map (·.2)).getD "" |>.toList

/-- Replaces the variable references of a value, left to right: `\$` becomes `$`, and `$` with
an optional `{`, a name and an optional `}` what `substitute` gives. -/
def expand (env : List (String × String)) : Nat → List Char → List Char
  | 0, cs => cs
  | _ + 1, [] => []
  | fuel + 1, '\\' :: '$' :: rest =>
    let (_, after) := reference rest
    '$' :: (reference rest).1 ++ expand env fuel after
  | fuel + 1, '$' :: rest =>
    let (body, after) := reference rest
    substitute env ('$' :: body) ++ expand env fuel after
  | fuel + 1, c :: rest => c :: expand env fuel rest
where
  /-- The part of a reference after its `$`: an optional `{`, a name, an optional `}`. -/
  reference (cs : List Char) : List Char × List Char :=
    let brace := match cs with
      | '{' :: _ => 1
      | _ => 0
    let name := ((cs.drop brace).takeWhile isNameChar).length
    let close := match cs.drop (brace + name) with
      | '}' :: _ => 1
      | _ => 0
    let n := brace + name + close
    (cs.take n, cs.drop n)

/-- The value of a setting from its raw text. -/
def valueOf (env : List (String × String)) (raw : List Char) : String :=
  let v := trim raw
  let n := v.length
  let double := n ≥ 2 && v.head? = some '"' && v.getLast? = some '"'
  let single := n ≥ 2 && v.head? = some '\'' && v.getLast? = some '\''
  let v := if double || single then (v.drop 1).dropLast else v
  let v := if double then unescape (replacePair '\\' 'r' '\r' (replacePair '\\' 'n' '\n' v)) else v
  String.ofList (if single then v else expand env (v.length + 1) v)

/-- The problem of a line that does not read as a setting. -/
def malformed (env : List (String × String)) (line : List Char) : Option String :=
  let st := trim line
  match st with
  | [] => none
  | '#' :: _ => none
  | _ =>
    let word := "export".toList
    let name := (st.dropWhile (· ≠ ' ')).drop 1
    if word.isPrefixOf st && st.contains ' ' && !env.any (·.1 == String.ofList name) then
      some ("line `" ++ String.ofList st ++ "` has an unset variable")
    else some ("line `" ++ String.ofList line ++ "` doesn't match format")

/-- Reads the lines in order onto the settings read so far. -/
def readLines (env : List (String × String)) (first : Bool) :
    Nat → List (List Char) → Except String (List (String × String))
  | 0, _ => .ok env
  | _ + 1, [] => .ok env
  | fuel + 1, raw :: rest =>
    let raw := if first && raw.head? = some (Char.ofNat 0xFEFF) then raw.drop 1 else raw
    let line := trim raw
    match line with
    | [] => readLines env false fuel rest
    | '#' :: _ => readLines env false fuel rest
    | _ =>
      let (line, closed, rest) := match openQuote line with
        | some q => joinQuoted q line rest
        | none => (line, true, rest)
      if !closed then .error "missing quotes"
      else
        match readLine line with
        | some (k, raw) =>
          let v := valueOf env raw
          readLines ((env.filter (·.1 != k)) ++ [(k, v)]) false fuel rest
        | none =>
          match malformed env line with
          | some e => .error e
          | none => readLines env false fuel rest

/-- Reads an environment file into its settings, each a text. -/
def read (content : String) : Except String (List (String × Datum)) := do
  let lines := splitLines [] content.toList
  let env ← readLines [] true (lines.length + 1) lines
  pure (env.map fun (k, v) => (k, .str v))

end Env

end Auction

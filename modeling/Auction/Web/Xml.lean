import Auction.Text

/-!
# XML bodies

An XML body fills a record's fields by name: each child of the document's first element whose
name (without its namespace qualifier) is a field's name gives that field the text directly
inside it, the text of deeper elements left out. Other children, attributes, comments,
processing instructions and declarations are passed over. Nothing after the first element is
read.

Everything read must be well formed, and anything that is not makes the body unreadable:

* a name starts with a letter, `_` or `:` and goes on with letters, digits, `-`, `.`, `:` and
  combining marks (letters and marks beyond ASCII as XML 1.0 lists them), and holds at most one
  `:`, which splits off a qualifier when there is text on both sides of it;
* a start tag holds attributes `name="value"` or `name='value'`, and ends in `>` or `/>`;
* an end tag names the element that is open, qualifier included;
* text may not hold `]]>`; in text and attribute values `&` starts a reference: `&lt;`, `&gt;`,
  `&amp;`, `&apos;`, `&quot;`, `&#NNN;` or `&#xHHH;`, and `<` may not stand in a value;
* comments `<!-- -->` may not hold `--`; `<![CDATA[ ]]>` is text as written; a processing
  instruction `<?xml ?>` may only declare version 1.0 and the UTF-8 encoding;
* the characters of text and values, references replaced, are tabs, line breaks and the
  characters XML allows; a carriage return, alone or before a line feed, reads as a line feed;
* the document may not end inside the first element, nor before it.
-/

namespace Auction

namespace Xml

/-! ## Names -/

/-- Whether a character may stand in a name as the reader gathers it: ASCII letters, digits,
`_`, `:`, `.`, `-`, and anything beyond ASCII. -/
def isNameByte (c : Char) : Bool :=
  c.toNat ≥ 0x80 || c.isAlphanum || c = '_' || c = ':' || c = '.' || c = '-'

/-- Whether a code point lies in one of the ranges. -/
def inRanges (n : Nat) : List (Nat × Nat) → Bool
  | [] => false
  | (lo, hi) :: rest => (lo ≤ n && n ≤ hi) || inRanges n rest

/-- The letters beyond ASCII that may start a name: the base characters and ideographs of
XML 1.0 (fourth edition), Appendix B, with touching ranges joined. -/
def letterRanges : List (Nat × Nat) :=
  [(0xC0, 0xD6), (0xD8, 0xF6), (0xF8, 0x131), (0x134, 0x13E), (0x141, 0x148), (0x14A, 0x17E),
   (0x180, 0x1C3), (0x1CD, 0x1F0), (0x1F4, 0x1F5), (0x1FA, 0x217), (0x250, 0x2A8), (0x2BB, 0x2C1),
   (0x386, 0x386), (0x388, 0x38A), (0x38C, 0x38C), (0x38E, 0x3A1), (0x3A3, 0x3CE), (0x3D0, 0x3D6),
   (0x3DA, 0x3DA), (0x3DC, 0x3DC), (0x3DE, 0x3DE), (0x3E0, 0x3E0), (0x3E2, 0x3F3), (0x401, 0x40C),
   (0x40E, 0x44F), (0x451, 0x45C), (0x45E, 0x481), (0x490, 0x4C4), (0x4C7, 0x4C8), (0x4CB, 0x4CC),
   (0x4D0, 0x4EB), (0x4EE, 0x4F5), (0x4F8, 0x4F9), (0x531, 0x556), (0x559, 0x559), (0x561, 0x586),
   (0x5D0, 0x5EA), (0x5F0, 0x5F2), (0x621, 0x63A), (0x641, 0x64A), (0x671, 0x6B7), (0x6BA, 0x6BE),
   (0x6C0, 0x6CE), (0x6D0, 0x6D3), (0x6D5, 0x6D5), (0x6E5, 0x6E6), (0x905, 0x939), (0x93D, 0x93D),
   (0x958, 0x961), (0x985, 0x98C), (0x98F, 0x990), (0x993, 0x9A8), (0x9AA, 0x9B0), (0x9B2, 0x9B2),
   (0x9B6, 0x9B9), (0x9DC, 0x9DD), (0x9DF, 0x9E1), (0x9F0, 0x9F1), (0xA05, 0xA0A), (0xA0F, 0xA10),
   (0xA13, 0xA28), (0xA2A, 0xA30), (0xA32, 0xA33), (0xA35, 0xA36), (0xA38, 0xA39), (0xA59, 0xA5C),
   (0xA5E, 0xA5E), (0xA72, 0xA74), (0xA85, 0xA8B), (0xA8D, 0xA8D), (0xA8F, 0xA91), (0xA93, 0xAA8),
   (0xAAA, 0xAB0), (0xAB2, 0xAB3), (0xAB5, 0xAB9), (0xABD, 0xABD), (0xAE0, 0xAE0), (0xB05, 0xB0C),
   (0xB0F, 0xB10), (0xB13, 0xB28), (0xB2A, 0xB30), (0xB32, 0xB33), (0xB36, 0xB39), (0xB3D, 0xB3D),
   (0xB5C, 0xB5D), (0xB5F, 0xB61), (0xB85, 0xB8A), (0xB8E, 0xB90), (0xB92, 0xB95), (0xB99, 0xB9A),
   (0xB9C, 0xB9C), (0xB9E, 0xB9F), (0xBA3, 0xBA4), (0xBA8, 0xBAA), (0xBAE, 0xBB5), (0xBB7, 0xBB9),
   (0xC05, 0xC0C), (0xC0E, 0xC10), (0xC12, 0xC28), (0xC2A, 0xC33), (0xC35, 0xC39), (0xC60, 0xC61),
   (0xC85, 0xC8C), (0xC8E, 0xC90), (0xC92, 0xCA8), (0xCAA, 0xCB3), (0xCB5, 0xCB9), (0xCDE, 0xCDE),
   (0xCE0, 0xCE1), (0xD05, 0xD0C), (0xD0E, 0xD10), (0xD12, 0xD28), (0xD2A, 0xD39), (0xD60, 0xD61),
   (0xE01, 0xE2E), (0xE30, 0xE30), (0xE32, 0xE33), (0xE40, 0xE45), (0xE81, 0xE82), (0xE84, 0xE84),
   (0xE87, 0xE88), (0xE8A, 0xE8A), (0xE8D, 0xE8D), (0xE94, 0xE97), (0xE99, 0xE9F), (0xEA1, 0xEA3),
   (0xEA5, 0xEA5), (0xEA7, 0xEA7), (0xEAA, 0xEAB), (0xEAD, 0xEAE), (0xEB0, 0xEB0), (0xEB2, 0xEB3),
   (0xEBD, 0xEBD), (0xEC0, 0xEC4), (0xF40, 0xF47), (0xF49, 0xF69), (0x10A0, 0x10C5), (0x10D0, 0x10F6),
   (0x1100, 0x1100), (0x1102, 0x1103), (0x1105, 0x1107), (0x1109, 0x1109), (0x110B, 0x110C), (0x110E, 0x1112),
   (0x113C, 0x113C), (0x113E, 0x113E), (0x1140, 0x1140), (0x114C, 0x114C), (0x114E, 0x114E), (0x1150, 0x1150),
   (0x1154, 0x1155), (0x1159, 0x1159), (0x115F, 0x1161), (0x1163, 0x1163), (0x1165, 0x1165), (0x1167, 0x1167),
   (0x1169, 0x1169), (0x116D, 0x116E), (0x1172, 0x1173), (0x1175, 0x1175), (0x119E, 0x119E), (0x11A8, 0x11A8),
   (0x11AB, 0x11AB), (0x11AE, 0x11AF), (0x11B7, 0x11B8), (0x11BA, 0x11BA), (0x11BC, 0x11C2), (0x11EB, 0x11EB),
   (0x11F0, 0x11F0), (0x11F9, 0x11F9), (0x1E00, 0x1E9B), (0x1EA0, 0x1EF9), (0x1F00, 0x1F15), (0x1F18, 0x1F1D),
   (0x1F20, 0x1F45), (0x1F48, 0x1F4D), (0x1F50, 0x1F57), (0x1F59, 0x1F59), (0x1F5B, 0x1F5B), (0x1F5D, 0x1F5D),
   (0x1F5F, 0x1F7D), (0x1F80, 0x1FB4), (0x1FB6, 0x1FBC), (0x1FBE, 0x1FBE), (0x1FC2, 0x1FC4), (0x1FC6, 0x1FCC),
   (0x1FD0, 0x1FD3), (0x1FD6, 0x1FDB), (0x1FE0, 0x1FEC), (0x1FF2, 0x1FF4), (0x1FF6, 0x1FFC), (0x2126, 0x2126),
   (0x212A, 0x212B), (0x212E, 0x212E), (0x2180, 0x2182), (0x3007, 0x3007), (0x3021, 0x3029), (0x3041, 0x3094),
   (0x30A1, 0x30FA), (0x3105, 0x312C), (0x4E00, 0x9FA5), (0xAC00, 0xD7A3)]

/-- The characters beyond ASCII that may follow the first of a name besides letters: the
combining characters, digits and extenders of XML 1.0 (fourth edition), Appendix B, with
touching ranges joined. -/
def markRanges : List (Nat × Nat) :=
  [(0xB7, 0xB7), (0x2D0, 0x2D1), (0x300, 0x345), (0x360, 0x361), (0x387, 0x387), (0x483, 0x486),
   (0x591, 0x5A1), (0x5A3, 0x5B9), (0x5BB, 0x5BD), (0x5BF, 0x5BF), (0x5C1, 0x5C2), (0x5C4, 0x5C4),
   (0x640, 0x640), (0x64B, 0x652), (0x660, 0x669), (0x670, 0x670), (0x6D6, 0x6E4), (0x6E7, 0x6E8),
   (0x6EA, 0x6ED), (0x6F0, 0x6F9), (0x901, 0x903), (0x93C, 0x93C), (0x93E, 0x94D), (0x951, 0x954),
   (0x962, 0x963), (0x966, 0x96F), (0x981, 0x983), (0x9BC, 0x9BC), (0x9BE, 0x9C4), (0x9C7, 0x9C8),
   (0x9CB, 0x9CD), (0x9D7, 0x9D7), (0x9E2, 0x9E3), (0x9E6, 0x9EF), (0xA02, 0xA02), (0xA3C, 0xA3C),
   (0xA3E, 0xA42), (0xA47, 0xA48), (0xA4B, 0xA4D), (0xA66, 0xA71), (0xA81, 0xA83), (0xABC, 0xABC),
   (0xABE, 0xAC5), (0xAC7, 0xAC9), (0xACB, 0xACD), (0xAE6, 0xAEF), (0xB01, 0xB03), (0xB3C, 0xB3C),
   (0xB3E, 0xB43), (0xB47, 0xB48), (0xB4B, 0xB4D), (0xB56, 0xB57), (0xB66, 0xB6F), (0xB82, 0xB83),
   (0xBBE, 0xBC2), (0xBC6, 0xBC8), (0xBCA, 0xBCD), (0xBD7, 0xBD7), (0xBE7, 0xBEF), (0xC01, 0xC03),
   (0xC3E, 0xC44), (0xC46, 0xC48), (0xC4A, 0xC4D), (0xC55, 0xC56), (0xC66, 0xC6F), (0xC82, 0xC83),
   (0xCBE, 0xCC4), (0xCC6, 0xCC8), (0xCCA, 0xCCD), (0xCD5, 0xCD6), (0xCE6, 0xCEF), (0xD02, 0xD03),
   (0xD3E, 0xD43), (0xD46, 0xD48), (0xD4A, 0xD4D), (0xD57, 0xD57), (0xD66, 0xD6F), (0xE31, 0xE31),
   (0xE34, 0xE3A), (0xE46, 0xE4E), (0xE50, 0xE59), (0xEB1, 0xEB1), (0xEB4, 0xEB9), (0xEBB, 0xEBC),
   (0xEC6, 0xEC6), (0xEC8, 0xECD), (0xED0, 0xED9), (0xF18, 0xF19), (0xF20, 0xF29), (0xF35, 0xF35),
   (0xF37, 0xF37), (0xF39, 0xF39), (0xF3E, 0xF3F), (0xF71, 0xF84), (0xF86, 0xF8B), (0xF90, 0xF95),
   (0xF97, 0xF97), (0xF99, 0xFAD), (0xFB1, 0xFB7), (0xFB9, 0xFB9), (0x20D0, 0x20DC), (0x20E1, 0x20E1),
   (0x3005, 0x3005), (0x302A, 0x302F), (0x3031, 0x3035), (0x3099, 0x309A), (0x309D, 0x309E), (0x30FC, 0x30FE)]

/-- Whether a character may start a name. -/
def isNameStart (c : Char) : Bool :=
  c.isAlpha || c = '_' || c = ':' || inRanges c.toNat letterRanges

/-- Whether a character may stand in a name after its first. -/
def isNameRest (c : Char) : Bool :=
  isNameStart c || c.isDigit || c = '-' || c = '.' || inRanges c.toNat markRanges

/-- Whether gathered characters make a name. -/
def isName : List Char → Bool
  | [] => false
  | c :: rest => isNameStart c && rest.all isNameRest

/-- Reads a name: the characters that may stand in one, which must make a name and must be
followed by something. -/
def name (cs : List Char) : Option (List Char × List Char) :=
  let n := cs.takeWhile isNameByte
  let rest := cs.drop n.length
  if rest.isEmpty || !isName n then none else some (n, rest)

/-- An element's or attribute's name: its qualifier (or `""`) and its own part. -/
structure QName where
  qualifier : String
  part : String
  deriving DecidableEq

/-- Reads a name and splits off its qualifier. -/
def qualifiedName (cs : List Char) : Option (QName × List Char) :=
  (name cs).bind fun (n, rest) =>
    if n.count ':' > 1 then none
    else
      let q := n.takeWhile (· ≠ ':')
      let p := n.drop (q.length + 1)
      if q.length = n.length || q.isEmpty || p.isEmpty then some (⟨"", String.ofList n⟩, rest)
      else some (⟨String.ofList q, String.ofList p⟩, rest)

/-- Drops blanks, tabs and line breaks. -/
def skipSpace (cs : List Char) : List Char :=
  cs.dropWhile fun c => c = ' ' || c = '\r' || c = '\n' || c = '\t'

/-! ## Text -/

/-- Whether XML allows a character. -/
def allowed (c : Char) : Bool :=
  let n := c.toNat
  n = 0x09 || n = 0x0A || n = 0x0D || (0x20 ≤ n && n ≤ 0xD7FF) || (0xE000 ≤ n && n ≤ 0xFFFD) ||
    (0x10000 ≤ n && n ≤ 0x10FFFF)

/-- The value of a run of digits in base 10 or 16. -/
def digitsValue (hex : Bool) (ds : List Char) : Nat :=
  ds.foldl (fun a c =>
    let d := if c.isDigit then c.toNat - 48
      else if 'a' ≤ c && c ≤ 'f' then c.toNat - 87 else c.toNat - 55
    a * (if hex then 16 else 10) + d) 0

/-- Whether a character is a digit of the base. -/
def isBaseDigit (hex : Bool) (c : Char) : Bool :=
  c.isDigit || (hex && (('a' ≤ c && c ≤ 'f') || ('A' ≤ c && c ≤ 'F')))

/-- The character a reference stands for, after its `&`, and the text after its `;`. A numeric
reference names a code point up to U+10FFFF, a surrogate standing for U+FFFD. -/
def reference (cs : List Char) : Option (Char × List Char) :=
  match cs with
  | '#' :: r =>
    let (hex, r) := match r with
      | 'x' :: r => (true, r)
      | r => (false, r)
    let ds := r.takeWhile (isBaseDigit hex)
    match r.drop ds.length with
    | ';' :: rest =>
      let n := digitsValue hex ds
      if ds.isEmpty || n > 0x10FFFF then none
      else if 0xD800 ≤ n && n ≤ 0xDFFF then some ('�', rest)
      else some (Char.ofNat n, rest)
    | _ => none
  | _ =>
    let n := String.ofList (cs.takeWhile isNameByte)
    match cs.drop n.length with
    | ';' :: rest =>
      match n with
      | "lt" => some ('<', rest)
      | "gt" => some ('>', rest)
      | "amp" => some ('&', rest)
      | "apos" => some ('\'', rest)
      | "quot" => some ('"', rest)
      | _ => none
    | _ => none

/-- Reads text onto `acc` (reversed), `b0` and `b1` the last two characters read as written.
Plain text (`quote` none, `cdata` false) ends before `<` or at the end; a value ends at its
closing quote (or the end); a character-data section ends after `]]>`. -/
def textRun (quote : Option Char) (cdata : Bool) :
    Nat → List Char → Char → Char → List Char → Option (List Char × List Char)
  | 0, _, _, _, _ => none
  | _ + 1, acc, _, _, [] => if cdata then none else some (acc.reverse, [])
  | fuel + 1, acc, b0, b1, b :: rest =>
    if quote.isNone && b0 = ']' && b1 = ']' && b = '>' then
      if cdata then some ((acc.drop 2).reverse, rest) else none
    else if b = '<' && !cdata then
      if quote.isSome then none else some (acc.reverse, b :: rest)
    else if quote = some b then some (acc.reverse, rest)
    else if b = '&' && !cdata then
      match reference rest with
      | some (c, rest) => textRun quote cdata fuel (c :: acc) '\x00' '\x00' rest
      | none => none
    else
      let acc := if b = '\r' then '\n' :: acc else if b1 = '\r' && b = '\n' then acc else b :: acc
      textRun quote cdata fuel acc b1 b rest

/-- Reads text as `textRun` does, and checks that XML allows its characters. -/
def text (quote : Option Char) (cdata : Bool) (cs : List Char) : Option (List Char × List Char) :=
  (textRun quote cdata (cs.length + 1) [] '\x00' '\x00' cs).bind fun (t, rest) =>
    if t.all allowed then some (t, rest) else none

/-! ## Markup -/

/-- The text after a comment, from after its `<!--`: it ends at `-->`, and `--` may not stand
before anything else. -/
def comment : List Char → Char → Char → Option (List Char)
  | [], _, _ => none
  | b :: rest, b0, b1 =>
    if b0 = '-' && b1 = '-' then (if b = '>' then some rest else none)
    else comment rest b1 b

/-- The text after a comment inside a declaration: it ends at the first `-->`. -/
def innerComment : List Char → Char → Char → Option (List Char)
  | [], _, _ => none
  | b :: rest, b0, b1 =>
    if b0 = '-' && b1 = '-' && b = '>' then some rest else innerComment rest b1 b

/-- The text after a declaration `<!…>`: it ends at a `>` outside quotes and outside nested
`<…>`, and may hold comments. `pending` is a character read but not yet looked at. -/
def declaration : Nat → Option Char → Nat → Option Char → List Char → Option (List Char)
  | 0, _, _, _, _ => none
  | _ + 1, _, _, none, [] => none
  | fuel + 1, q, depth, none, b :: rest =>
    if q.isNone && b = '>' && depth = 0 then some rest
    else declaration fuel q depth (some b) rest
  | fuel + 1, q, depth, some b, rest =>
    if q = some b then declaration fuel none depth none rest
    else if q.isSome then declaration fuel q depth none rest
    else if b = '\'' || b = '"' then declaration fuel (some b) depth none rest
    else if b = '>' then declaration fuel q (depth - 1) none rest
    else if b = '<' then
      match rest with
      | '!' :: '-' :: '-' :: more =>
        (innerComment more '\x00' '\x00').bind (declaration fuel q depth none)
      | '!' :: '-' :: c :: more => declaration fuel q (depth + 1) (some c) more
      | '!' :: c :: more => declaration fuel q (depth + 1) (some c) more
      | '!' :: [] => none
      | c :: more => declaration fuel q (depth + 1) (some c) more
      | [] => none
    else declaration fuel q depth none rest

/-- The text after the first `?>`, and the text before it. -/
def instructionEnd : List Char → Option (List Char × List Char)
  | '?' :: '>' :: rest => some ([], rest)
  | c :: rest => (instructionEnd rest).map fun (body, after) => (c :: body, after)
  | [] => none

/-- The text after the first occurrence of `pat` in `s`. -/
def after (pat : List Char) : List Char → Option (List Char)
  | [] => if pat.isEmpty then some [] else none
  | c :: rest => if pat.isPrefixOf (c :: rest) then some ((c :: rest).drop pat.length)
    else after pat rest

/-- The value of a parameter `param="…"` (or `'…'`) of a declaration's body: the first
`param=` followed by a quote, up to the next such quote; `""` when there is none. -/
def parameter (param : List Char) : Nat → List Char → String
  | 0, _ => ""
  | fuel + 1, s =>
    match after param s with
    | some (c :: rest) =>
      if c = '"' || c = '\'' then
        if rest.contains c then String.ofList (rest.takeWhile (· ≠ c)) else ""
      else parameter param fuel rest
    | _ => ""

/-- The text after a processing instruction, from after its `<?`: a name, then anything up to
`?>`. The instruction named `xml` may only declare version 1.0 and the UTF-8 encoding. -/
def instruction (cs : List Char) : Option (List Char) :=
  (name cs).bind fun (target, rest) =>
    (instructionEnd (skipSpace rest)).bind fun (body, after) =>
      if target == "xml".toList then
        let version := parameter "version=".toList (body.length + 1) body
        let encoding := parameter "encoding=".toList (body.length + 1) body
        if version != "" && version != "1.0" then none
        else if encoding != "" && encoding.toLower != "utf-8" then none
        else some after
      else some after

/-- The text after a start tag's attributes, and whether the tag closes itself. -/
def attributes : Nat → List Char → Option (Bool × List Char)
  | 0, _ => none
  | fuel + 1, cs =>
    match skipSpace cs with
    | [] => none
    | '/' :: '>' :: rest => some (true, rest)
    | '/' :: _ => none
    | '>' :: rest => some (false, rest)
    | cs =>
      (qualifiedName cs).bind fun (_, rest) =>
        match skipSpace rest with
        | '=' :: rest =>
          match skipSpace rest with
          | q :: rest =>
            if q = '"' || q = '\'' then
              (text (some q) false rest).bind fun (_, rest) => attributes fuel rest
            else none
          | [] => none
        | _ => none

/-! ## Reading a document -/

/-- A piece of a document. -/
inductive Piece where
  | start (n : QName)
  | stop (n : QName)
  | text (t : List Char)
  /-- A comment, a processing instruction or a declaration. -/
  | other

/-- Where a reader stands: the text left, the elements open (innermost first), and the end of
a self-closing element still to be given. -/
structure Reader where
  rest : List Char
  opened : List QName := []
  closing : Option QName := none

/-- The next piece of a document, or none when the document ends or is malformed there. -/
def Reader.next (st : Reader) : Option (Piece × Reader) :=
  match st.closing with
  | some n => some (.stop n, { st with opened := st.opened.drop 1, closing := none })
  | none =>
    match st.rest with
    | [] => none
    | '<' :: r =>
      match r with
      | [] => none
      | '/' :: r =>
        (qualifiedName r).bind fun (n, rest) =>
          match skipSpace rest, st.opened with
          | '>' :: rest, top :: below =>
            if top = n then some (.stop n, { st with rest, opened := below }) else none
          | _, _ => none
      | '?' :: r => (instruction r).map fun rest => (.other, { st with rest })
      | '!' :: r =>
        match r with
        | '-' :: '-' :: r => (comment r '\x00' '\x00').map fun rest => (.other, { st with rest })
        | '-' :: _ => none
        | '[' :: r =>
          if "CDATA[".toList.isPrefixOf r then
            (text none true (r.drop 6)).map fun (t, rest) => (.text t, { st with rest })
          else none
        | _ :: r =>
          (declaration (2 * r.length + 2) none 0 none r).map fun rest => (.other, { st with rest })
        | [] => none
      | r =>
        (qualifiedName r).bind fun (n, rest) =>
          (attributes (rest.length + 1) rest).map fun (empty, rest) =>
            (.start n, { rest, opened := n :: st.opened, closing := if empty then some n else none })
    | cs => (text none false cs).map fun (t, rest) => (.text t, { st with rest })

/-- Where the reading of a record stands. -/
inductive Phase where
  /-- Before the first element. -/
  | seek
  /-- Directly inside the first element. -/
  | record
  /-- Inside a field's element, `depth` elements deep, with its text so far. -/
  | field (f : String) (t : List Char) (depth : Nat)
  /-- Inside another child, `depth` elements deep. -/
  | skip (depth : Nat)

/-- Reads pieces until the first element ends, gathering the fields' texts in order. -/
def walk (names : List String) :
    Nat → Reader → Phase → List (String × String) → Option (List (String × String))
  | 0, _, _, _ => none
  | fuel + 1, st, phase, acc =>
    (st.next).bind fun (p, st) =>
      match phase, p with
      | .seek, .start _ => walk names fuel st .record acc
      | .seek, _ => walk names fuel st .seek acc
      | .record, .start n =>
        if names.contains n.part then walk names fuel st (.field n.part [] 1) acc
        else walk names fuel st (.skip 1) acc
      | .record, .stop _ => some acc
      | .record, _ => walk names fuel st .record acc
      | .field f t d, .text s =>
        walk names fuel st (.field f (if d = 1 then t ++ s else t) d) acc
      | .field f t d, .start _ => walk names fuel st (.field f t (d + 1)) acc
      | .field f t d, .stop _ =>
        if d = 1 then walk names fuel st .record (acc ++ [(f, String.ofList t)])
        else walk names fuel st (.field f t (d - 1)) acc
      | .field f t d, .other => walk names fuel st (.field f t d) acc
      | .skip d, .start _ => walk names fuel st (.skip (d + 1)) acc
      | .skip d, .stop _ =>
        if d = 1 then walk names fuel st .record acc else walk names fuel st (.skip (d - 1)) acc
      | .skip d, _ => walk names fuel st (.skip d) acc

/-- The texts a document gives the named fields, in document order (a field may get several);
none when the document is malformed before its first element ends. -/
def fields (names : List String) (body : String) : Option (List (String × String)) :=
  walk names (2 * body.length + 2) { rest := body.toList } .seek []

/-- The value of a boolean field's text: `false` when it is empty, else, trimmed of white
space, one of `1 t T TRUE true True` or `0 f F FALSE false False`. -/
def boolValue (s : String) : Option Bool :=
  if s.isEmpty then some false
  else
    let t := String.ofList ((s.toList.dropWhile Text.isSpace).reverse.dropWhile Text.isSpace).reverse
    if ["1", "t", "T", "TRUE", "true", "True"].contains t then some true
    else if ["0", "f", "F", "FALSE", "false", "False"].contains t then some false
    else none

end Xml

end Auction

import PyxProject.Toml.Scalar

/-!
# Reading a configuration file

A file is a sequence of lines, each of which holds a key with a value, the header of
a table, or nothing but a comment. Strings, arrays and tables between braces may go
on over several lines, but a key may not. A reader takes what it needs from the
front of the text and returns the rest.

The recursion over nested values and over the characters of a string is bounded by
a number of steps. Twice the length of the file is enough for every one of them,
since two steps take at least one character.
-/

namespace PyxProject.Toml

/-- Whether a character is a space or a tab. -/
def isSpacing (char : Char) : Bool := char == ' ' || char == '\t'

/-- Drop spaces and tabs in front. -/
def dropSpacing (text : Text) : Text := text.dropWhile isSpacing

/-- Whether a character may stand in a string or a comment: any but the control
characters other than the tab. -/
def isPrintable (char : Char) : Bool :=
  char == '\t' || (0x20 ≤ char.toNat && char.toNat != 0x7F)

/-- The text after a line end in front. -/
def afterNewline? : Text → Option Text
  | '\n' :: rest => some rest
  | '\r' :: '\n' :: rest => some rest
  | _ => none

/-- Drop a comment in front, up to its line end. -/
def dropComment? (text : Text) : Option Text :=
  match text with
  | '#' :: rest =>
    let left := rest.dropWhile isPrintable
    match left with
    | [] => some left
    | _ => (afterNewline? left).map fun _ => left
  | _ => some text

/-- Drop spacing, comments and line ends in front. -/
def dropBlankLines? : Nat → Text → Option Text
  | 0, _ => none
  | steps + 1, text => do
    let text := dropSpacing text
    let text ← dropComment? text
    match afterNewline? text with
    | some rest => dropBlankLines? steps rest
    | none => some text

/-- The rest after a statement: nothing but spacing and a comment may follow on the
same line. -/
def endOfLine? (text : Text) : Option Text := do
  let text ← dropComment? (dropSpacing text)
  if text = [] then some [] else afterNewline? text

/-- The character with a code of the given number of digits in front. -/
def readCode? (length : Nat) (text : Text) : Option (Char × Text) :=
  let digits := text.take length
  if digits.length = length ∧ digits.all isHex then
    let code := digitsValue 16 digits
    if code < 0xD800 ∨ (0xDFFF < code ∧ code < 0x110000) then
      some (Char.ofNat code, text.drop length)
    else none
  else none

/-- The character that an escape stands for, after its backslash. -/
def readEscape? : Text → Option (Char × Text)
  | 'b' :: rest => some (Char.ofNat 0x08, rest)
  | 't' :: rest => some ('\t', rest)
  | 'n' :: rest => some ('\n', rest)
  | 'f' :: rest => some (Char.ofNat 0x0C, rest)
  | 'r' :: rest => some ('\r', rest)
  | 'e' :: rest => some (Char.ofNat 0x1B, rest)
  | '"' :: rest => some ('"', rest)
  | '\\' :: rest => some ('\\', rest)
  | 'x' :: rest => readCode? 2 rest
  | 'u' :: rest => readCode? 4 rest
  | 'U' :: rest => readCode? 8 rest
  | _ => none

/-- The rest of a string in double quotes. -/
def readBasic? : Nat → Text → Option (Text × Text)
  | 0, _ => none
  | steps + 1, text =>
    match text with
    | [] => none
    | '"' :: rest => some ([], rest)
    | '\\' :: rest => do
      let (char, rest) ← readEscape? rest
      let (content, rest) ← readBasic? steps rest
      return (char :: content, rest)
    | char :: rest => do
      if isPrintable char then
        let (content, rest) ← readBasic? steps rest
        return (char :: content, rest)
      else none

/-- The rest of a string in single quotes. -/
def readLiteral? (text : Text) : Option (Text × Text) :=
  let content := text.takeWhile (· != '\'')
  match text.drop content.length with
  | '\'' :: rest => if content.all isPrintable then some (content, rest) else none
  | _ => none

/-- The rest of a string after three of its delimiters close it. Up to two more of
them in front belong to the string. -/
def closeLong (delimiter : Char) (text : Text) : Text × Text :=
  let extra := (text.takeWhile (· == delimiter)).take 2
  (extra, text.drop extra.length)

/-- Drop spacing and line ends in front. -/
def dropLineEnds : Nat → Text → Text
  | 0, text => text
  | steps + 1, text =>
    match afterNewline? (dropSpacing text) with
    | some rest => dropLineEnds steps rest
    | none => dropSpacing text

/-- The rest of a string in three delimiters. In double quotes a backslash before a
line end takes away the spacing and the line ends that follow. -/
def readLong? (delimiter : Char) : Nat → Text → Option (Text × Text)
  | 0, _ => none
  | steps + 1, text =>
    match text with
    | [] => none
    | first :: rest =>
      if first = delimiter ∧ rest.take 2 = [delimiter, delimiter] then
        some (closeLong delimiter (rest.drop 2))
      else if first = '\\' ∧ delimiter = '"' then
        match afterNewline? (dropSpacing rest) with
        | some rest => readLong? delimiter steps (dropLineEnds rest.length rest)
        | none => do
          let (char, rest) ← readEscape? rest
          let (content, rest) ← readLong? delimiter steps rest
          return (char :: content, rest)
      else if isPrintable first || (afterNewline? text).isSome then do
        let (content, rest) ← readLong? delimiter steps rest
        return (first :: content, rest)
      else none

/-- Drop a line end right after the delimiters that open a long string. -/
def dropFirstNewline (text : Text) : Text := (afterNewline? text).getD text

/-- A string in front. -/
def readString? (steps : Nat) : Text → Option (Text × Text)
  | '"' :: '"' :: '"' :: rest => readLong? '"' steps (dropFirstNewline rest)
  | '\'' :: '\'' :: '\'' :: rest => readLong? '\'' steps (dropFirstNewline rest)
  | '"' :: rest => readBasic? steps rest
  | '\'' :: rest => readLiteral? rest
  | _ => none

/-- Whether a character may stand in a key without quotes. -/
def isKeyChar (char : Char) : Bool :=
  char.isAlphanum || char == '_' || char == '-'

/-- One part of a key in front. -/
def readKeyPart? (steps : Nat) (text : Text) : Option (Text × Text) :=
  match text with
  | '"' :: rest => readBasic? steps rest
  | '\'' :: rest => readLiteral? rest
  | _ =>
    let key := text.takeWhile isKeyChar
    if key = [] then none else some (key, text.drop key.length)

/-- A key in front, with its dotted parts, and the spacing after it. -/
def readKey? : Nat → Text → Option (List Text × Text)
  | 0, _ => none
  | steps + 1, text => do
    let (part, rest) ← readKeyPart? (steps + 1) (dropSpacing text)
    match dropSpacing rest with
    | '.' :: rest => do
      let (parts, rest) ← readKey? steps rest
      return (part :: parts, rest)
    | rest => return ([part], rest)

/-- Whether a character may stand in a number, a date or a truth value. -/
def isWordChar (char : Char) : Bool :=
  char.isAlphanum || char == '+' || char == '-' || char == '_' || char == '.' || char == ':'

/-- A number, a date or a truth value in front. A date may be followed by a space and
a time. -/
def readWord? (text : Text) : Option (Value × Text) :=
  let word := text.takeWhile isWordChar
  let rest := text.drop word.length
  if word = "true" then some (.boolean true, rest)
  else if word = "false" then some (.boolean false, rest)
  else if isNumber word then some (.number, rest)
  else if isDate word then
    match rest with
    | ' ' :: after =>
      let time := after.takeWhile isWordChar
      if isOffsetTime time then some (.dateTime, after.drop time.length)
      else some (.dateTime, rest)
    | _ => some (.dateTime, rest)
  else if isDateTime word then some (.dateTime, rest)
  else none

mutual

/-- A value in front, at most the given number of levels deep. -/
def readValue? : Nat → Nat → Text → Option (Value × Text)
  | 0, _, _ => none
  | steps + 1, levels, text =>
    match text, levels with
    | '[' :: rest, levels + 1 =>
      (readItems? steps levels rest).map fun (items, rest) => (.array items, rest)
    | '\x7b' :: rest, levels + 1 =>
      (readEntries? steps levels [] rest).map fun (entries, rest) => (.table .inline entries, rest)
    | '"' :: _, _ | '\'' :: _, _ =>
      (readString? (steps + 1) text).map fun (string, rest) => (.string string, rest)
    | _, _ => readWord? text

/-- The rest of an array. -/
def readItems? : Nat → Nat → Text → Option (List Value × Text)
  | 0, _, _ => none
  | steps + 1, levels, text => do
    match ← dropBlankLines? (steps + 1) text with
    | ']' :: rest => return ([], rest)
    | text =>
      let (item, rest) ← readValue? steps levels text
      match ← dropBlankLines? (steps + 1) rest with
      | ']' :: rest => return ([item], rest)
      | ',' :: rest =>
        let (items, rest) ← readItems? steps levels rest
        return (item :: items, rest)
      | _ => none

/-- The rest of a table between braces. -/
def readEntries? : Nat → Nat → Table → Text → Option (Table × Text)
  | 0, _, _, _ => none
  | steps + 1, levels, table, text => do
    match ← dropBlankLines? (steps + 1) text with
    | '\x7d' :: rest => return (table, rest)
    | text =>
      let (key, rest) ← readKey? (steps + 1) text
      match ← dropBlankLines? (steps + 1) rest with
      | '=' :: rest =>
        let (value, rest) ← readValue? steps levels (← dropBlankLines? (steps + 1) rest)
        let table ← Table.insert value key table
        match ← dropBlankLines? (steps + 1) rest with
        | '\x7d' :: rest => return (table, rest)
        | ',' :: rest => readEntries? steps levels table rest
        | _ => none
      | _ => none

end

/-- The number of arrays and tables between braces that may be open at a time. -/
def maxLevels : Nat := 80

/-- A statement of a file. -/
inductive Statement where
  | pair (key : List Text) (value : Value)
  | header (key : List Text)
  | arrayHeader (key : List Text)

/-- A statement in front. -/
def readStatement? (steps : Nat) (text : Text) : Option (Statement × Text) :=
  match text with
  | '[' :: '[' :: rest => do
    let (key, rest) ← readKey? steps rest
    match rest with
    | ']' :: ']' :: rest => return (.arrayHeader key, rest)
    | _ => none
  | '[' :: rest => do
    let (key, rest) ← readKey? steps rest
    match rest with
    | ']' :: rest => return (.header key, rest)
    | _ => none
  | _ => do
    let (key, rest) ← readKey? steps text
    match rest with
    | '=' :: rest =>
      let (value, rest) ← readValue? steps maxLevels (dropSpacing rest)
      return (.pair key value, rest)
    | _ => none

/-- The statements of a file. -/
def readStatements? : Nat → Text → Option (List Statement)
  | 0, _ => none
  | steps + 1, text => do
    match ← dropBlankLines? (steps + 1) text with
    | [] => return []
    | text =>
      let (statement, rest) ← readStatement? (steps + 1) text
      let rest ← endOfLine? rest
      let statements ← readStatements? steps rest
      return statement :: statements

/-- Carry out statements on a table, given the keys of the header that holds. -/
def assemble (header : List Text) : List Statement → Table → Option Table
  | [], table => some table
  | .pair key value :: rest, table => do
    let table ← Table.modify (Table.insert value key) header table
    assemble header rest table
  | .header key :: rest, table => do
    let last ← key.getLast?
    let table ← Table.modify (Table.define last) key.dropLast table
    assemble key rest table
  | .arrayHeader key :: rest, table => do
    let last ← key.getLast?
    let table ← Table.modify (Table.append last) key.dropLast table
    assemble key rest table

/-- The table that a file holds, if the file is well formed. -/
def read? (content : Text) : Option Table := do
  let text := match content with
    | '\uFEFF' :: rest => rest
    | _ => content
  let statements ← readStatements? (2 * text.length + 2) text
  assemble [] statements []

end PyxProject.Toml

import StructuralAdapters.Toml.Scalar

/-!
# Reading TOML

A document is read from its characters, statement by statement.

* `Toml.basicText`, `Toml.literalText` and their forms over several lines: quoted texts;
* `Toml.keyPath`: a key with its dots;
* `Toml.value`: a value, nested at most `Toml.nestingLimit` deep;
* `Toml.read`: a whole document.

A reader takes the characters that are left and returns what it has read with those that follow, or
nothing if the document is malformed.
-/

namespace StructuralAdapters.Toml

/-- What a reader returns: what it has read, and the characters that follow. -/
abbrev Reading (α : Type) := Option (α × List Char)

/-! ### Blanks, comments and line breaks -/

/-- A space or a tab. -/
def isBlank (c : Char) : Bool := c == ' ' || c == '\t'

/-- A character that may stand in a text or a comment: a tab, or no control character. -/
def isPlain (c : Char) : Bool := c == '\t' || (decide (' ' ≤ c) && c != '\x7f')

/-- Skip blanks. -/
def skipBlanks (cs : List Char) : List Char := cs.dropWhile isBlank

/-- What follows a line break. -/
def newline? : List Char → Option (List Char)
  | '\n' :: rest => some rest
  | '\r' :: '\n' :: rest => some rest
  | _ => none

/-- What follows the rest of a line that holds blanks and a comment at most. -/
def lineEnd? (cs : List Char) : Option (List Char) :=
  let rest := skipBlanks cs
  let rest' := if rest.head? = some '#' then rest.dropWhile isPlain else rest
  if rest'.isEmpty then some [] else newline? rest'

/-- Skip blanks, line breaks and comments inside an array. -/
def skipTrivia (inComment : Bool) : List Char → Option (List Char)
  | [] => if inComment then none else some []
  | '\n' :: rest => skipTrivia false rest
  | '\r' :: '\n' :: rest => skipTrivia false rest
  | c :: rest =>
      if inComment then if isPlain c then skipTrivia true rest else none
      else if isBlank c then skipTrivia false rest
      else if c = '#' then skipTrivia true rest
      else some (c :: rest)

/-! ### Texts -/

/-- The character that a short escape stands for. -/
def shortEscape? : Char → Option Char
  | 'b' => some '\x08'
  | 't' => some '\t'
  | 'n' => some '\n'
  | 'f' => some '\x0c'
  | 'r' => some '\r'
  | '"' => some '"'
  | '\\' => some '\\'
  | _ => none

/-- The character with the code point that hexadecimal digits stand for. -/
def codePoint? (digits : List Char) : Option Char :=
  let n := numeral 16 digits
  if digits.all (fun c => digitValue c < 16) && decide n.isValidChar then some (Char.ofNat n)
  else none

/-- The rest of a text in double quotes. -/
def basicText (before : List Char) : List Char → Reading String
  | [] => none
  | '"' :: rest => some (String.ofList before.reverse, rest)
  | '\\' :: 'u' :: a :: b :: c :: d :: rest =>
      match codePoint? [a, b, c, d] with
      | some x => basicText (x :: before) rest
      | none => none
  | '\\' :: 'U' :: a :: b :: c :: d :: e :: f :: g :: h :: rest =>
      match codePoint? [a, b, c, d, e, f, g, h] with
      | some x => basicText (x :: before) rest
      | none => none
  | '\\' :: c :: rest =>
      match shortEscape? c with
      | some x => basicText (x :: before) rest
      | none => none
  | c :: rest => if isPlain c then basicText (c :: before) rest else none

/-- The rest of a text in single quotes, in which nothing is escaped. -/
def literalText (before : List Char) : List Char → Reading String
  | [] => none
  | '\'' :: rest => some (String.ofList before.reverse, rest)
  | c :: rest => if isPlain c then literalText (c :: before) rest else none

/-- The rest of a text in three double quotes.  Up to two more quotes may stand before the closing
ones.  A backslash at the end of a line drops the blanks and line breaks up to the next text; while
they are dropped, `trim` is set. -/
def basicLines (trim : Bool) (before : List Char) : List Char → Reading String
  | [] => none
  | '\n' :: rest => basicLines trim (if trim then before else '\n' :: before) rest
  | '\r' :: '\n' :: rest => basicLines trim (if trim then before else '\n' :: before) rest
  | '"' :: '"' :: '"' :: '"' :: '"' :: '"' :: _ => none
  | '"' :: '"' :: '"' :: '"' :: '"' :: rest =>
      some (String.ofList ('"' :: '"' :: before).reverse, rest)
  | '"' :: '"' :: '"' :: '"' :: rest => some (String.ofList ('"' :: before).reverse, rest)
  | '"' :: '"' :: '"' :: rest => some (String.ofList before.reverse, rest)
  | '\\' :: 'u' :: a :: b :: c :: d :: rest =>
      match codePoint? [a, b, c, d] with
      | some x => basicLines false (x :: before) rest
      | none => none
  | '\\' :: 'U' :: a :: b :: c :: d :: e :: f :: g :: h :: rest =>
      match codePoint? [a, b, c, d, e, f, g, h] with
      | some x => basicLines false (x :: before) rest
      | none => none
  | '\\' :: c :: rest =>
      match shortEscape? c with
      | some x => basicLines false (x :: before) rest
      | none =>
          if (newline? (skipBlanks (c :: rest))).isSome then basicLines true before (c :: rest)
          else none
  | c :: rest =>
      if trim && isBlank c then basicLines true before rest
      else if isPlain c then basicLines false (c :: before) rest
      else none

/-- The rest of a text in three single quotes.  Up to two more quotes may stand before the closing
ones. -/
def literalLines (before : List Char) : List Char → Reading String
  | [] => none
  | '\'' :: '\'' :: '\'' :: '\'' :: '\'' :: '\'' :: _ => none
  | '\'' :: '\'' :: '\'' :: '\'' :: '\'' :: rest =>
      some (String.ofList ('\'' :: '\'' :: before).reverse, rest)
  | '\'' :: '\'' :: '\'' :: '\'' :: rest => some (String.ofList ('\'' :: before).reverse, rest)
  | '\'' :: '\'' :: '\'' :: rest => some (String.ofList before.reverse, rest)
  | '\n' :: rest => literalLines ('\n' :: before) rest
  | '\r' :: '\n' :: rest => literalLines ('\n' :: before) rest
  | c :: rest => if isPlain c then literalLines (c :: before) rest else none

/-- A text over several lines loses a line break at its start. -/
def skipFirstBreak (cs : List Char) : List Char := (newline? cs).getD cs

/-! ### Keys -/

/-- A character of a key without quotes. -/
def isBareKey (c : Char) : Bool := c.isAlphanum || c == '_' || c == '-'

/-- One part of a key. -/
def keyPart : List Char → Reading String
  | '"' :: rest => basicText [] rest
  | '\'' :: rest => literalText [] rest
  | cs =>
      let (part, rest) := cs.span isBareKey
      if part.isEmpty then none else some (String.ofList part, rest)

/-- Values may be nested less than this deep, and keys have fewer parts than this. -/
def nestingLimit : Nat := 80

/-- A key of at most `parts` parts, with the blanks around them: the parts before the last, and the
last. -/
def keyPath : (parts : Nat) → List Char → Option ((List String × String) × List Char)
  | 0, _ => none
  | parts + 1, cs => do
      let (part, rest) ← keyPart (skipBlanks cs)
      match skipBlanks rest with
      | '.' :: rest' =>
          let ((path, last), rest'') ← keyPath parts rest'
          return ((part :: path, last), rest'')
      | rest' => return (([], part), rest')

/-- A key as deep as the limit allows. -/
def key : List Char → Reading (List String × String) := keyPath (nestingLimit - 1)

/-- A key, an equals sign and a value. -/
def keyValue (value : List Char → Reading Node) (cs : List Char) :
    Option (((List String × String) × Node) × List Char) := do
  match ← key cs with
  | (k, '=' :: rest) =>
      let (node, rest') ← value (skipBlanks rest)
      return ((k, node), rest')
  | _ => none

/-! ### Values -/

/-- The rest of an array, before an item or the closing bracket.  Each turn reads an item and its
comma, so there are at most as many turns as characters. -/
def arrayItems (value : List Char → Reading Node) :
    (turns : Nat) → List Char → Option (List Node × List Char)
  | 0, _ => none
  | turns + 1, cs => do
      match ← skipTrivia false cs with
      | ']' :: rest => return ([], rest)
      | rest =>
          let (item, rest') ← value rest
          match ← skipTrivia false rest' with
          | ']' :: after => return ([item], after)
          | ',' :: after =>
              let (items, after') ← arrayItems value turns after
              return (item :: items, after')
          | _ => none

/-- The rest of a table in braces, before a key.  Each turn reads a key, its value and a comma. -/
def braceItems (value : List Char → Reading Node) :
    (turns : Nat) → Table → List Char → Option (Table × List Char)
  | 0, _, _ => none
  | turns + 1, t, cs => do
      let (((path, k), node), rest) ← keyValue value cs
      let t' ← insert path k node .closed t
      match skipBlanks rest with
      | '}' :: after => return (t', after)
      | ',' :: after => braceItems value turns t' after
      | _ => none

/-- A character of a word: a number, a date, a time or a boolean. -/
def isWordChar (c : Char) : Bool :=
  c.isAlphanum || c == '+' || c == '-' || c == '_' || c == '.' || c == ':'

/-- A word.  After a date, a blank and the digits of a time belong to it. -/
def word (cs : List Char) : List Char × List Char :=
  let (first, rest) := cs.span isWordChar
  match afterDate? first, rest with
  | some [], ' ' :: c :: rest' =>
      if c.isDigit then
        let (second, rest'') := (c :: rest').span isWordChar
        (first ++ ' ' :: second, rest'')
      else (first, rest)
  | _, _ => (first, rest)

/-- A value in which arrays and braces are nested at most `depth` deep. -/
def value : (depth : Nat) → List Char → Reading Node
  | _, '"' :: '"' :: '"' :: rest =>
      (basicLines false [] (skipFirstBreak rest)).map fun (s, rest') => (.text s, rest')
  | _, '"' :: rest => (basicText [] rest).map fun (s, rest') => (.text s, rest')
  | _, '\'' :: '\'' :: '\'' :: rest =>
      (literalLines [] (skipFirstBreak rest)).map fun (s, rest') => (.text s, rest')
  | _, '\'' :: rest => (literalText [] rest).map fun (s, rest') => (.text s, rest')
  | 0, '[' :: _ | 0, '{' :: _ => none
  | depth + 1, '[' :: rest =>
      (arrayItems (value depth) (rest.length + 1) rest).map fun (items, rest') =>
        (.array items, rest')
  | depth + 1, '{' :: rest =>
      match skipBlanks rest with
      | '}' :: rest' => some (.table .closed [], rest')
      | _ =>
          (braceItems (value depth) (rest.length + 1) [] rest).map fun (t, rest') =>
            (.table .closed t, rest')
  | _, cs =>
      let (first, rest) := word cs
      (scalar? first).map fun node => (node, rest)

/-! ### Documents -/

/-- The statements from here on.  `current` is the path of the table that the last header opened.
Each turn reads a line at least. -/
def statements : (turns : Nat) → (current : List String) → Table → List Char → Option Table
  | 0, _, _, _ => none
  | turns + 1, current, document, cs =>
      match skipBlanks cs with
      | [] => some document
      | '#' :: rest => do statements turns current document (← lineEnd? ('#' :: rest))
      | '\n' :: rest => statements turns current document rest
      | '\r' :: '\n' :: rest => statements turns current document rest
      | '[' :: '[' :: rest => do
          match ← key rest with
          | ((path, last), ']' :: ']' :: rest') =>
              let document' ← openElement path last document
              statements turns (path ++ [last]) document' (← lineEnd? rest')
          | _ => none
      | '[' :: rest => do
          match ← key rest with
          | ((path, last), ']' :: rest') =>
              let document' ← openTable path last document
              statements turns (path ++ [last]) document' (← lineEnd? rest')
          | _ => none
      | rest => do
          let (((path, last), node), rest') ← keyValue (value (nestingLimit - 1)) rest
          let document' ← alterAt false (insert path last node) current .header document
          statements turns current document' (← lineEnd? rest')

/-- Read a document.  A byte order mark may stand before it. -/
def read (text : String) : Option Table :=
  let cs := text.toList
  let cs' := if cs.head? = some '\ufeff' then cs.drop 1 else cs
  statements (cs'.length + 1) [] [] cs'

end StructuralAdapters.Toml
